/-
Work directories in diagnostics.  A path has a slash, which is not in the mark, and neither end of
the mark, so no path is put together by marks and what is between them: masked diagnostics are the
same whatever name the work directory had, and they tell where that name stood.  Where the path
leads to another one that is masked with it, they do not tell which of the two it was.
-/
import Counterpart.FileTree
import Counterpart.Proofs.Text.Replace
import Counterpart.Trial.Build

namespace Counterpart.Workdir

open Text

/-- A text that names a path and has neither end of the mark. -/
structure Spells (s : List Char) : Prop where
  slash : '/' ∈ s
  opening : '<' ∉ s
  closing : '>' ∉ s

/-- The text with one spelling replaced by the mark. -/
def hide (text : List Char) (spelling : String) : List Char :=
  replace spelling.toList mark text

variable {s t text : List Char}

theorem Spells.ne_nil (hs : Spells s) : s ≠ [] :=
  List.ne_nil_of_mem hs.slash

/-- There is no slash inside the mark. -/
theorem Spells.not_infix_inner (hs : Spells s) : ¬ s <:+: "workdir".toList := by
  intro hstands
  have hslash : '/' ∈ "workdir".toList := hstands.subset hs.slash
  revert hslash
  decide

/-- What is nowhere between the marks is nowhere in the masked text. -/
theorem Spells.not_infix_join (hs : Spells s) {segments : List (List Char)}
    (hsegments : ∀ segment ∈ segments, ¬ s <:+: segment) : ¬ s <:+: join mark segments :=
  Text.not_infix_join hs.opening hs.closing hs.not_infix_inner hsegments

/-- A spelling that is replaced is not left anywhere. -/
theorem Spells.not_infix_replace (hs : Spells s) (text : List Char) :
    ¬ s <:+: replace s mark text := by
  obtain ⟨first, segments, _, hreplace, hnone⟩ := exists_segments hs.ne_nil text
  rw [hreplace]
  exact hs.not_infix_join hnone

/-- Replacing something else brings none back. -/
theorem Spells.not_infix_hide (hs : Spells s) (hnone : ¬ s <:+: text) (other : String) :
    ¬ s <:+: hide text other := by
  rw [hide]
  by_cases hother : other.toList = []
  · rw [hother]
    exact hnone
  · obtain ⟨first, segments, htext, hreplace, _⟩ := exists_segments hother text
    rw [hreplace]
    apply hs.not_infix_join
    intro segment hsegment hstands
    rw [htext] at hnone
    exact hnone (hstands.trans (infix_join hsegment other.toList))

/-- The mark comes back to the spelling, if it was not in the text before. -/
theorem Spells.replace_replace (hs : Spells s) (hmark : ¬ mark <:+: text) :
    replace mark s (replace s mark text) = text := by
  obtain ⟨first, segments, htext, hreplace, _⟩ := exists_segments hs.ne_nil text
  have hsegments : ∀ segment ∈ first :: segments, ¬ mark <:+: segment := by
    intro segment hsegment hstands
    rw [htext] at hmark
    exact hmark (hstands.trans (infix_join hsegment s))
  have hinner : '<' ∉ "workdir>".toList := by decide
  rw [hreplace, htext]
  exact replace_join hinner hsegments

section Spellings

variable {names : List String}

theorem Spells.not_infix_foldl (hs : Spells s) (hnone : ¬ s <:+: text) (names : List String) :
    ¬ s <:+: names.foldl hide text := by
  induction names generalizing text with
  | nil => exact hnone
  | cons name names ih => exact ih (hs.not_infix_hide hnone name)

/-- Of a spelling that is replaced among others nothing is left. -/
theorem not_infix_foldl_of_mem {name : String} (hspells : Spells name.toList)
    (hname : name ∈ names) : ¬ name.toList <:+: names.foldl hide text := by
  induction names generalizing text with
  | nil => cases hname
  | cons first names ih =>
      rw [List.foldl_cons]
      rcases List.mem_cons.1 hname with rfl | hname
      · exact hspells.not_infix_foldl (hspells.not_infix_replace text) names
      · exact ih hname

theorem foldl_hide_eq_self (hnone : ∀ name ∈ names, ¬ name.toList <:+: text) :
    names.foldl hide text = text := by
  induction names with
  | nil => rfl
  | cons name names ih =>
      rw [List.forall_mem_cons] at hnone
      rw [List.foldl_cons, hide, replace_eq_self hnone.1, ih hnone.2]

end Spellings

section Masking

variable {canonical : Option String} {workdir : String}

theorem mem_spellings_iff {name : String} :
    name ∈ spellings canonical workdir ↔ name = workdir ∨ name ∈ canonical := by
  unfold spellings
  rcases canonical with _ | other
  · simp
  · rw [Option.mem_some_iff]
    dsimp only
    split
    · next hsame =>
      subst hsame
      simp [eq_comm]
    · split <;> simp [or_comm, eq_comm]

/-- Where no other spelling stands in a text, only the path itself is replaced. -/
theorem mask_eq_hide (hspells : ∀ other ∈ canonical, Spells other.toList)
    (hnone : ∀ other ∈ canonical, other ≠ workdir → ¬ other.toList <:+: text) :
    mask canonical workdir text = hide text workdir := by
  unfold mask spellings
  rcases canonical with _ | other
  · rfl
  · have hother := hspells other rfl
    dsimp only
    split
    · rfl
    · next hne =>
      have hstands := hnone other rfl hne
      split
      · exact replace_eq_self (hother.not_infix_hide hstands workdir)
      · exact congrArg (hide · workdir) (replace_eq_self hstands)

end Masking

/-- Masked diagnostics do not have the path of the work directory in them.  If it leads nowhere,
or to a path with neither end of the mark, no spelling is left at all and masking again changes
nothing; and if there was neither a mark nor another spelling before, writing the path for every
mark gives the diagnostics back. -/
theorem mask_hides_and_restores (canonical : Option String) {workdir : String}
    (hworkdir : Spells workdir.toList) (text : List Char) :
    let masked := mask canonical workdir text
    ¬ workdir.toList <:+: masked ∧
      ((∀ other ∈ canonical, Spells other.toList) →
        (∀ name ∈ spellings canonical workdir, ¬ name.toList <:+: masked) ∧
          mask canonical workdir masked = masked ∧
          (¬ mark <:+: text →
            (∀ other ∈ canonical, other ≠ workdir → ¬ other.toList <:+: text) →
              replace mark workdir.toList masked = text)) := by
  intro masked
  refine ⟨not_infix_foldl_of_mem hworkdir (mem_spellings_iff.2 (.inl rfl)), ?_⟩
  intro hothers
  have hspells : ∀ name ∈ spellings canonical workdir, Spells name.toList := by
    intro name hname
    rcases mem_spellings_iff.1 hname with rfl | hother
    · exact hworkdir
    · exact hothers name hother
  have hnone : ∀ name ∈ spellings canonical workdir, ¬ name.toList <:+: masked :=
    fun name hname => not_infix_foldl_of_mem (hspells name hname) hname
  refine ⟨hnone, foldl_hide_eq_self hnone, ?_⟩
  intro hmark hstands
  have hmasked : masked = replace workdir.toList mark text := mask_eq_hide hothers hstands
  rw [hmasked]
  exact hworkdir.replace_replace hmark

/-- A path that ends as it begins, twice in a row so that its occurrences overlap. -/
theorem mask_hides_and_restores_overlapping :
    let workdir := "/a/a"
    let text := "/a/a/a/b".toList
    mask none workdir text = "<workdir>/a/b".toList ∧
      ¬ workdir.toList <:+: mask none workdir text ∧
      replace mark workdir.toList (mask none workdir text) = text := by
  have hspells : Spells "/a/a".toList := ⟨by decide, by decide, by decide⟩
  obtain ⟨hnone, hrest⟩ := mask_hides_and_restores none hspells "/a/a/a/b".toList
  obtain ⟨_, _, hrestores⟩ := hrest nofun
  exact ⟨by cbv, hnone, hrestores (by decide) nofun⟩

namespace Renamed

/-- A tree in which one file is below the root. -/
def tree : FileTree := ⟨[(["dev"], .directory), (["dev", "null"], .file [])]⟩

/-- What a path with a detour leads to. -/
def canonical : Option String := (tree.resolve? [] "/dev/./null").map FileTree.pathOf

theorem canonical_eq : canonical = some "/dev/null" := by
  decide

end Renamed

open Renamed in
/-- What was masked by one name of a file is not told from what was masked by the other.  And
where a path leads to one with a mark in it, masking puts that one together. -/
theorem mask_loses_other_spelling :
    Spells "/dev/./null".toList ∧ tree.isDirectory [] "/dev/./null" = false ∧
      ¬ mark <:+: "see /dev/null".toList ∧
      replace mark "/dev/./null".toList (mask canonical "/dev/./null" "see /dev/null".toList) ≠
        "see /dev/null".toList ∧
      Spells "/b".toList ∧
      mask (some "/a<workdir>") "/b" (mask (some "/a<workdir>") "/b" "/a/b".toList) ≠
        mask (some "/a<workdir>") "/b" "/a/b".toList := by
  have hlonger : spellings (some "/dev/null") "/dev/./null" = ["/dev/./null", "/dev/null"] := by
    decide
  have hmasked : mask (some "/dev/null") "/dev/./null" "see /dev/null".toList =
      "see <workdir>".toList := by
    rw [mask, hlonger]
    cbv
  have hrestored : replace mark "/dev/./null".toList "see <workdir>".toList =
      "see /dev/./null".toList := by cbv
  have hshorter : spellings (some "/a<workdir>") "/b" = ["/a<workdir>", "/b"] := by decide
  have hkept : mask (some "/a<workdir>") "/b" "/a/b".toList = "/a<workdir>".toList := by
    rw [mask, hshorter]
    cbv
  have hagain : mask (some "/a<workdir>") "/b" "/a<workdir>".toList = mark := by
    rw [mask, hshorter]
    cbv
  rw [canonical_eq, hmasked, hrestored, hkept, hagain]
  exact ⟨⟨by decide, by decide, by decide⟩, by decide, by decide, by decide,
    ⟨by decide, by decide, by decide⟩, by decide⟩

end Counterpart.Workdir
