/-
Joined paths.  A relative path goes on from the path it is joined to, part by part; an
absolute one leaves nothing of it.
-/
import Counterpart.Path
import Counterpart.Proofs.Text.Words

namespace Counterpart.Path

open Text

/-- Whether a path goes through a directory, component by component. -/
def IsPrefix (dir path : String) : Prop :=
  isAbsolute dir = isAbsolute path ∧ components dir <+: components path

/-- Whether two texts are the same path. -/
def Same (path other : String) : Prop :=
  isAbsolute path = isAbsolute other ∧ components path = components other

/-- Neither of two directories lies in the other. -/
def Apart (dir other : String) : Prop :=
  ¬ IsPrefix dir other ∧ ¬ IsPrefix other dir

/-- The names between the slashes of a text. -/
def names (cs : List Char) : List String :=
  ((pieces '/' cs).filter (!·.isEmpty)).map String.ofList

theorem names_slash (front back : List Char) :
    names (front ++ '/' :: back) = names front ++ names back := by
  rw [names, pieces_mark, List.filter_append, List.map_append]
  rfl

theorem names_nil : names [] = [] := by
  rfl

/-- How a relative path is joined: a slash is put between, unless there is one. -/
theorem toList_join {base path : String} (hbase : base ≠ "") (hpath : isAbsolute path = false) :
    (∃ front, base.toList = front ++ ['/'] ∧
      (join base path).toList = front ++ '/' :: path.toList) ∨
      (join base path).toList = base.toList ++ '/' :: path.toList := by
  have hempty : base.isEmpty = false := by
    rwa [Bool.eq_false_iff, ne_eq, String.isEmpty_iff]
  rw [join, hpath, hempty, Bool.or_false, if_neg (by simp)]
  split
  · next hlast =>
      obtain ⟨front, hfront⟩ := List.getLast?_eq_some_iff.1 hlast
      refine .inl ⟨front, hfront, ?_⟩
      rw [String.toList_append, hfront, List.append_assoc]
      rfl
  · refine .inr ?_
    rw [String.toList_append, String.toList_append, List.append_assoc]
    rfl

theorem join_empty (path : String) : join "" path = path := by
  simp [join]

theorem parts_join {base path : String} (hbase : base ≠ "") (hpath : isAbsolute path = false) :
    parts (join base path) = parts base ++ parts path := by
  change names (join base path).toList = names base.toList ++ names path.toList
  rcases toList_join hbase hpath with ⟨front, hfront, hjoin⟩ | hjoin
  · rw [hjoin, hfront, names_slash, names_slash, names_nil, List.append_nil]
  · rw [hjoin, names_slash]

theorem isAbsolute_join {base path : String} (hbase : base ≠ "") (hpath : isAbsolute path = false) :
    isAbsolute (join base path) = isAbsolute base := by
  obtain ⟨c, rest, hbase'⟩ : ∃ c rest, base.toList = c :: rest := by
    apply List.exists_cons_of_ne_nil
    intro hnil
    exact hbase (String.toList_eq_nil_iff.1 hnil)
  rw [isAbsolute, isAbsolute]
  rcases toList_join hbase hpath with ⟨front, hfront, hjoin⟩ | hjoin
  · rw [hjoin, hfront]
    cases front with
    | nil => rfl
    | cons c front => rfl
  · rw [hjoin, hbase']
    rfl

/-- A path without parts is empty or absolute. -/
theorem isAbsolute_of_parts_eq_nil {path : String} (hne : path ≠ "") (hparts : parts path = []) :
    isAbsolute path = true := by
  cases hcs : path.toList with
  | nil => exact absurd (String.toList_eq_nil_iff.1 hcs) hne
  | cons c cs =>
      by_cases hc : c = '/'
      · rw [isAbsolute, hcs, hc]
        rfl
      · obtain ⟨piece, rest, hpieces⟩ := List.exists_cons_of_ne_nil (pieces_ne_nil '/' cs)
        simp [parts, hcs, pieces_cons, hc, hpieces] at hparts

theorem components_join {base path : String} (hbase : base ≠ "")
    (hpath : isAbsolute path = false) :
    components (join base path) = components base ++ (parts path).filter (· != ".") := by
  rw [components, parts_join hbase hpath, isAbsolute_join hbase hpath, components]
  cases hparts : parts base with
  | nil =>
      have habsolute := isAbsolute_of_parts_eq_nil hbase hparts
      rw [List.nil_append]
      cases parts path with
      | nil => rfl
      | cons first rest =>
          by_cases hfirst : first = "."
          · simp [hfirst, habsolute]
          · simp [hfirst]
  | cons first rest =>
      rw [List.cons_append]
      dsimp only
      rw [List.filter_append]
      split
      · rfl
      · rfl

/-- What is joined last names the file. -/
theorem fileName?_join (base : String) {name : String} (hname : isAbsolute name = false)
    (hparts : parts name = [name]) (hpoint : name ≠ ".") (hpoints : name ≠ "..") :
    fileName? (join base name) = some name := by
  have hlast : (components (join base name)).getLast? = some name := by
    by_cases hbase : base = ""
    · rw [hbase, join_empty, components, hparts]
      simp [hpoint]
    · rw [components_join hbase hname, hparts]
      simp [hpoint]
  rw [fileName?, hlast]
  simp [hpoint, hpoints]

/-- A relative path stays below what it is joined to, as far as its text goes. -/
theorem isPrefix_join (base : String) {path : String} (hpath : isAbsolute path = false) :
    IsPrefix base (join base path) := by
  by_cases hbase : base = ""
  · rw [hbase, join_empty]
    exact ⟨hpath.symm, List.nil_prefix⟩
  · refine ⟨(isAbsolute_join hbase hpath).symm, ?_⟩
    rw [components_join hbase hpath]
    exact List.prefix_append _ _

/-- No path goes through two directories that are apart. -/
theorem not_isPrefix_of_apart {dir other path : String} (hapart : Apart dir other)
    (hdir : IsPrefix dir path) : ¬ IsPrefix other path := by
  intro hother
  have hroot : isAbsolute dir = isAbsolute other := hdir.1.trans hother.1.symm
  rcases List.prefix_or_prefix_of_prefix hdir.2 hother.2 with hle | hle
  · exact hapart.1 ⟨hroot, hle⟩
  · exact hapart.2 ⟨hroot.symm, hle⟩

theorem IsPrefix.of_same {dir path other : String} (hdir : IsPrefix dir path)
    (hsame : Same path other) : IsPrefix dir other :=
  ⟨hdir.1.trans hsame.1, hsame.2 ▸ hdir.2⟩

end Counterpart.Path
