/-
Generation is one sequence of which every count takes the front.  The rows of each kind follow
those of the kind before and are numbered on from them, so fewer sets are the first of more, and
the seed has no say in any set before the random ones.
-/
import Counterpart.Proofs.Generate.Conform
import Counterpart.Proofs.Generate.Numbering

namespace Counterpart.Generate

/-- A way of making at most a given number of sets, numbered from a given index. -/
abbrev Phase := (count index : Nat) → Except InputError (List ArgumentSet)

namespace Phase

/-- The sets of a first phase, and those of a second one as far as the count allows. -/
def followedBy (first second : Phase) : Phase := fun count index => do
  let front ← first count index
  let back ← second (count - front.length) (index + front.length)
  .ok (front ++ back)

/-- A phase that makes no more sets than it is asked for, and for a smaller count the first of
those for a greater one. -/
structure Stable (phase : Phase) : Prop where
  none (index : Nat) : phase 0 index = .ok []
  length_le {count index : Nat} {sets : List ArgumentSet} (hsets : phase count index = .ok sets) :
    sets.length ≤ count
  take {count index : Nat} {sets : List ArgumentSet} (hsets : phase count index = .ok sets) :
    ∀ fewer ≤ count, phase fewer index = .ok (sets.take fewer)

theorem followedBy_eq_ok_iff {first second : Phase} {count index : Nat}
    {sets : List ArgumentSet} : first.followedBy second count index = .ok sets ↔
      ∃ front back, first count index = .ok front ∧
        second (count - front.length) (index + front.length) = .ok back ∧ sets = front ++ back := by
  rw [followedBy, bind_eq_ok_iff]
  constructor
  · rintro ⟨front, hfront, hsets⟩
    obtain ⟨back, hback, hall⟩ := bind_eq_ok_iff.1 hsets
    cases hall
    exact ⟨front, back, hfront, hback, rfl⟩
  · rintro ⟨front, back, hfront, hback, rfl⟩
    exact ⟨front, hfront, bind_eq_ok_iff.2 ⟨back, hback, rfl⟩⟩

/-- A count that ends inside the first phase leaves nothing for the second. -/
theorem Stable.followedBy {first second : Phase} (hfirst : first.Stable)
    (hsecond : second.Stable) : (first.followedBy second).Stable where
  none index := followedBy_eq_ok_iff.2 ⟨[], [], hfirst.none index, hsecond.none _, rfl⟩
  length_le := by
    intro count index sets hsets
    obtain ⟨front, back, hfront, hback, rfl⟩ := followedBy_eq_ok_iff.1 hsets
    have hfrontLength := hfirst.length_le hfront
    have hbackLength := hsecond.length_le hback
    rw [List.length_append]
    omega
  take := by
    intro count index sets hsets fewer hle
    obtain ⟨front, back, hfront, hback, rfl⟩ := followedBy_eq_ok_iff.1 hsets
    have hrest := hsecond.take hback (fewer - front.length) (Nat.sub_le_sub_right hle _)
    refine followedBy_eq_ok_iff.2 ⟨front.take fewer, back.take (fewer - front.length),
      hfirst.take hfront fewer hle, ?_, List.take_append⟩
    rw [List.length_take]
    rcases Nat.le_total front.length fewer with hwhole | hcut
    · rw [Nat.min_eq_right hwhole]
      exact hrest
    · rw [Nat.min_eq_left hcut, Nat.sub_self, Nat.sub_eq_zero_of_le hcut, List.take_zero]
      exact hsecond.none _

end Phase

section

variable {config : GeneratorConfig} {sig : Signature} {sets : List ArgumentSet} {ρ : Type}
  {provenance : Provenance} {build : ρ → Except InputError (List ArgValue)} {count index : Nat}
  {rows : List ρ} {stream : Stream}

/-- The sets of fixed rows are those of the rows in order, as far as the count allows. -/
theorem forall₂_fixedSets (hsets : fixedSets provenance build count index rows = .ok sets) :
    List.Forall₂ (fun row set => set.provenance = provenance ∧ build row = .ok set.values)
      (rows.take count) sets := by
  induction count generalizing index rows sets with
  | zero =>
      cases hsets
      exact .nil
  | succ count ih =>
      cases rows with
      | nil =>
          cases hsets
          exact .nil
      | cons row rows =>
          obtain ⟨values, hvalues, hsets⟩ := bind_eq_ok_iff.1 hsets
          obtain ⟨rest, hrest, hall⟩ := bind_eq_ok_iff.1 hsets
          cases hall
          exact .cons ⟨rfl, hvalues⟩ (ih hrest)

theorem length_fixedSets (hsets : fixedSets provenance build count index rows = .ok sets) :
    sets.length = min count rows.length := by
  rw [← (forall₂_fixedSets hsets).length_eq, List.length_take]

theorem length_randomSets (hsets : randomSets config sig count index stream = .ok sets) :
    sets.length = count := by
  induction count generalizing index stream sets with
  | zero =>
      cases hsets
      rfl
  | succ count ih =>
      obtain ⟨⟨values, stream'⟩, _, hsets⟩ := bind_eq_ok_iff.1 hsets
      obtain ⟨rest, hrest, hall⟩ := bind_eq_ok_iff.1 hsets
      cases hall
      rw [List.length_cons, ih hrest]

theorem take_fixedSets (hsets : fixedSets provenance build count index rows = .ok sets) :
    ∀ fewer ≤ count, fixedSets provenance build fewer index rows = .ok (sets.take fewer) := by
  induction count generalizing index rows sets with
  | zero =>
      intro fewer hle
      cases hsets
      rw [Nat.le_zero.1 hle]
      rfl
  | succ count ih =>
      intro fewer hle
      cases rows with
      | nil =>
          cases hsets
          cases fewer <;> rfl
      | cons row rows =>
          obtain ⟨values, hvalues, hsets⟩ := bind_eq_ok_iff.1 hsets
          obtain ⟨rest, hrest, hall⟩ := bind_eq_ok_iff.1 hsets
          cases hall
          cases fewer with
          | zero => rfl
          | succ fewer =>
              have htake := ih hrest fewer (Nat.le_of_succ_le_succ hle)
              exact bind_eq_ok_iff.2 ⟨values, hvalues, bind_eq_ok_iff.2 ⟨_, htake, rfl⟩⟩

theorem take_randomSets (hsets : randomSets config sig count index stream = .ok sets) :
    ∀ fewer ≤ count, randomSets config sig fewer index stream = .ok (sets.take fewer) := by
  induction count generalizing index stream sets with
  | zero =>
      intro fewer hle
      cases hsets
      rw [Nat.le_zero.1 hle]
      rfl
  | succ count ih =>
      intro fewer hle
      obtain ⟨⟨values, stream'⟩, hvalues, hsets⟩ := bind_eq_ok_iff.1 hsets
      obtain ⟨rest, hrest, hall⟩ := bind_eq_ok_iff.1 hsets
      cases hall
      cases fewer with
      | zero => rfl
      | succ fewer =>
          have htake := ih hrest fewer (Nat.le_of_succ_le_succ hle)
          exact bind_eq_ok_iff.2 ⟨_, hvalues, bind_eq_ok_iff.2 ⟨_, htake, rfl⟩⟩

theorem stable_fixedSets (provenance : Provenance)
    (build : ρ → Except InputError (List ArgValue)) (rows : List ρ) :
    Phase.Stable fun count index => fixedSets provenance build count index rows where
  none _ := by cases rows <;> rfl
  length_le hsets := by
    rw [length_fixedSets hsets]
    exact Nat.min_le_left _ _
  take := take_fixedSets

theorem stable_randomSets (config : GeneratorConfig) (sig : Signature) (stream : Stream) :
    Phase.Stable fun count index => randomSets config sig count index stream where
  none _ := rfl
  length_le hsets := Nat.le_of_eq (length_randomSets hsets)
  take := take_randomSets

theorem build_getElem?_fixedSets (hsets : fixedSets provenance build count index rows = .ok sets)
    {i : Nat} {set : ArgumentSet} (hset : sets[i]? = some set) {row : ρ}
    (hrow : rows[i]? = some row) : build row = .ok set.values := by
  have hi : i < min count rows.length := by
    rw [← length_fixedSets hsets]
    exact (List.getElem?_eq_some_iff.1 hset).1
  have htake : (rows.take count)[i]? = some row := by
    rw [List.getElem?_take_of_lt (Nat.lt_of_lt_of_le hi (Nat.min_le_left _ _)), hrow]
  obtain ⟨other, hother, _, hbuild⟩ := exists_getElem?_of_forall₂ (forall₂_fixedSets hsets) htake
  cases hset.symm.trans hother
  exact hbuild

/-- Sets of one provenance. -/
theorem map_provenance_eq (hall : ∀ set ∈ sets, set.provenance = provenance) :
    sets.map (·.provenance) = List.replicate sets.length provenance :=
  List.map_eq_replicate_iff.2 hall

end

/-- The boundary rows of a signature as a phase. -/
def boundaryPhase (config : GeneratorConfig) (sig : Signature) : Phase := fun count index =>
  fixedSets .boundary (fun row => row.build config sig) count index (BoundaryRow.rows sig)

/-- The explicit rows of a case as a phase. -/
def explicitPhase (config : GeneratorConfig) (sig : Signature)
    (explicit : List (List ExplicitValue)) : Phase := fun count index =>
  fixedSets .explicit (fun (i, row) => ExplicitRow.build i config sig row) count index
    ((List.range explicit.length).zip explicit)

/-- The random rows of a stream as a phase. -/
def randomPhase (config : GeneratorConfig) (sig : Signature) (stream : Stream) : Phase :=
  fun count index => randomSets config sig count index stream

section

variable {config : GeneratorConfig} {sig : Signature} {explicit : List (List ExplicitValue)}
  {stream : Stream} {count : Nat} {sets : List ArgumentSet}

theorem setsFrom_eq_followedBy (stream : Stream) (config : GeneratorConfig) (sig : Signature)
    (explicit : List (List ExplicitValue)) (count : Nat) :
    setsFrom stream config sig explicit count =
      ((boundaryPhase config sig).followedBy (explicitPhase config sig explicit)).followedBy
        (randomPhase config sig stream) count 0 := by
  simp only [setsFrom, Phase.followedBy, boundaryPhase, explicitPhase, randomPhase, bind_assoc,
    Nat.zero_add]
  rfl

/-- The sets of a case by the kind of their rows, as many of each kind as the count has room
for behind the kinds before it. -/
structure Parts (config : GeneratorConfig) (sig : Signature)
    (explicit : List (List ExplicitValue)) (count : Nat)
    (boundary written random : List ArgumentSet) : Prop where
  length_boundary : boundary.length = min count (BoundaryRow.rows sig).length
  length_written : written.length = min (count - (BoundaryRow.rows sig).length) explicit.length
  length_random : random.length = count - (BoundaryRow.rows sig).length - explicit.length
  boundary_of_mem : ∀ set ∈ boundary, set.provenance = .boundary
  explicit_of_mem : ∀ set ∈ written, set.provenance = .explicit
  random_of_mem : ∀ set ∈ random, set.provenance = .random
  build_boundary {i : Nat} {row : BoundaryRow} {set : ArgumentSet}
    (hrow : (BoundaryRow.rows sig)[i]? = some row) (hset : boundary[i]? = some set) :
    row.build config sig = .ok set.values
  build_written {i : Nat} {row : List ExplicitValue} {set : ArgumentSet}
    (hrow : explicit[i]? = some row) (hset : written[i]? = some set) :
    ExplicitRow.build i config sig row = .ok set.values

theorem length_numbered (explicit : List (List ExplicitValue)) :
    ((List.range explicit.length).zip explicit).length = explicit.length := by
  rw [List.length_zip, List.length_range, Nat.min_self]

/-- The sets in front of the random ones are made without the stream. -/
theorem exists_parts (hsets : setsFrom stream config sig explicit count = .ok sets) :
    ∃ boundary written random, sets = boundary ++ written ++ random ∧
      (boundaryPhase config sig).followedBy (explicitPhase config sig explicit) count 0 =
        .ok (boundary ++ written) ∧ Parts config sig explicit count boundary written random := by
  rw [setsFrom_eq_followedBy] at hsets
  obtain ⟨fixed, random, hfixed, hrandom, rfl⟩ := Phase.followedBy_eq_ok_iff.1 hsets
  obtain ⟨boundary, written, hboundary, hwritten, rfl⟩ := Phase.followedBy_eq_ok_iff.1 hfixed
  have hboundaryLength := length_fixedSets hboundary
  have hwrittenLength := length_fixedSets hwritten
  have hrandomLength := length_randomSets hrandom
  rw [length_numbered] at hwrittenLength
  rw [List.length_append] at hrandomLength
  refine ⟨boundary, written, random, rfl, hfixed, ?_⟩
  constructor
  case length_boundary => exact hboundaryLength
  case length_written => omega
  case length_random => omega
  case boundary_of_mem => exact fun set hset => (mem_fixedSets hboundary hset).1
  case explicit_of_mem => exact fun set hset => (mem_fixedSets hwritten hset).1
  case random_of_mem => exact fun set hset => (mem_randomSets hrandom hset).1
  case build_boundary =>
    intro i row set hrow hset
    exact build_getElem?_fixedSets hboundary hset hrow
  case build_written =>
    intro i row set hrow hset
    have hi : i < explicit.length := (List.getElem?_eq_some_iff.1 hrow).1
    have hnumbered : ((List.range explicit.length).zip explicit)[i]? = some (i, row) := by
      rw [List.getElem?_zip_eq_some]
      exact ⟨List.getElem?_range hi, hrow⟩
    exact build_getElem?_fixedSets hwritten hset hnumbered

namespace Parts

variable {boundary written random : List ArgumentSet}
  (hparts : Parts config sig explicit count boundary written random)

include hparts

theorem length_eq : (boundary ++ written ++ random).length = count := by
  have hboundary := hparts.length_boundary
  have hwritten := hparts.length_written
  have hrandom := hparts.length_random
  rw [List.length_append, List.length_append]
  omega

theorem map_provenance : (boundary ++ written ++ random).map (·.provenance) =
    List.replicate (min count (BoundaryRow.rows sig).length) .boundary ++
      List.replicate (min (count - (BoundaryRow.rows sig).length) explicit.length) .explicit ++
      List.replicate (count - (BoundaryRow.rows sig).length - explicit.length) .random := by
  rw [List.map_append, List.map_append, map_provenance_eq hparts.boundary_of_mem,
    map_provenance_eq hparts.explicit_of_mem, map_provenance_eq hparts.random_of_mem,
    hparts.length_boundary, hparts.length_written, hparts.length_random]

theorem filter_not_random :
    (boundary ++ written ++ random).filter (·.provenance ≠ .random) = boundary ++ written := by
  have hboundary : boundary.filter (·.provenance ≠ .random) = boundary := by
    rw [List.filter_eq_self]
    intro set hset
    rw [hparts.boundary_of_mem set hset]
    rfl
  have hwritten : written.filter (·.provenance ≠ .random) = written := by
    rw [List.filter_eq_self]
    intro set hset
    rw [hparts.explicit_of_mem set hset]
    rfl
  have hrandom : random.filter (·.provenance ≠ .random) = [] := by
    rw [List.filter_eq_nil_iff]
    intro set hset
    rw [hparts.random_of_mem set hset]
    simp
  rw [List.filter_append, List.filter_append, hboundary, hwritten, hrandom, List.append_nil]

theorem build_getElem?_boundary {i : Nat} {row : BoundaryRow} {set : ArgumentSet}
    (hrow : (BoundaryRow.rows sig)[i]? = some row)
    (hset : (boundary ++ written ++ random)[i]? = some set) :
    row.build config sig = .ok set.values := by
  have hlength := hparts.length_eq
  have hlt : i < (boundary ++ written ++ random).length := (List.getElem?_eq_some_iff.1 hset).1
  have hi : i < boundary.length := by
    have hrows : i < (BoundaryRow.rows sig).length := (List.getElem?_eq_some_iff.1 hrow).1
    have hboundary := hparts.length_boundary
    omega
  rw [List.append_assoc, List.getElem?_append_left hi] at hset
  exact hparts.build_boundary hrow hset

theorem build_getElem?_written {i : Nat} {row : List ExplicitValue} {set : ArgumentSet}
    (hrow : explicit[i]? = some row)
    (hset : (boundary ++ written ++ random)[(BoundaryRow.rows sig).length + i]? = some set) :
    ExplicitRow.build i config sig row = .ok set.values := by
  have hlength := hparts.length_eq
  have hlt := (List.getElem?_eq_some_iff.1 hset).1
  have hboundary : boundary.length = (BoundaryRow.rows sig).length := by
    have hboundary := hparts.length_boundary
    omega
  have hi : i < written.length := by
    have hrows : i < explicit.length := (List.getElem?_eq_some_iff.1 hrow).1
    have hwritten := hparts.length_written
    omega
  rw [List.append_assoc, ← hboundary, List.getElem?_append_right (Nat.le_add_right _ _),
    Nat.add_sub_cancel_left, List.getElem?_append_left hi] at hset
  exact hparts.build_written hrow hset

end Parts

theorem stable_setsFrom (hsets : setsFrom stream config sig explicit count = .ok sets)
    {fewer : Nat} (hle : fewer ≤ count) :
    setsFrom stream config sig explicit fewer = .ok (sets.take fewer) := by
  rw [setsFrom_eq_followedBy] at hsets ⊢
  have hboundary : (boundaryPhase config sig).Stable := stable_fixedSets _ _ _
  have hexplicit : (explicitPhase config sig explicit).Stable := stable_fixedSets _ _ _
  have hrandom : (randomPhase config sig stream).Stable := stable_randomSets config sig stream
  exact ((hboundary.followedBy hexplicit).followedBy hrandom).take hsets fewer hle

end

theorem length_rows (sig : Signature) :
    (BoundaryRow.rows sig).length = if sig.hasNullable then 6 else 5 := by
  rw [BoundaryRow.rows]
  split <;> rfl

/-- A case is given one sequence of sets, numbered from zero on: the boundary rows, of which
there is one more if some parameter may be null, then the rows written for it in their order,
then random ones.  A smaller count gets the first of the sets for a greater one, and another
seed the same sets in front of the random ones. -/
theorem setsFor_stable (config : GeneratorConfig) (case : ReferenceCase) (seed : Nat)
    {fewer count : Nat} (hle : fewer ≤ count) {sets : List ArgumentSet}
    (hsets : setsFor config case seed count = .ok sets) :
    let boundaryRows := if case.signature.hasNullable then 6 else 5
    let explicitRows := case.explicit.length
    sets.length = count ∧
    (∀ (i : Nat) (set : ArgumentSet), sets[i]? = some set → set.index = i) ∧
    sets.map (·.provenance) = List.replicate (min count boundaryRows) .boundary ++
      List.replicate (min (count - boundaryRows) explicitRows) .explicit ++
      List.replicate (count - boundaryRows - explicitRows) .random ∧
    (∀ (i : Nat) (row : BoundaryRow) (set : ArgumentSet),
      (BoundaryRow.rows case.signature)[i]? = some row → sets[i]? = some set →
      row.build config case.signature = .ok set.values) ∧
    (∀ (i : Nat) (row : List ExplicitValue) (set : ArgumentSet),
      case.explicit[i]? = some row → sets[boundaryRows + i]? = some set →
      ExplicitRow.build i config case.signature row = .ok set.values) ∧
    setsFor config case seed fewer = .ok (sets.take fewer) ∧
    ∀ (seed' : Nat) (sets' : List ArgumentSet), setsFor config case seed' count = .ok sets' →
      sets'.filter (·.provenance ≠ .random) = sets.filter (·.provenance ≠ .random) := by
  intro boundaryRows explicitRows
  have hrows : (BoundaryRow.rows case.signature).length = boundaryRows :=
    length_rows case.signature
  obtain ⟨boundary, written, random, rfl, hfixed, hparts⟩ := exists_parts hsets
  refine ⟨hparts.length_eq, ?_, hrows ▸ hparts.map_provenance, ?_, ?_,
    stable_setsFrom hsets hle, ?_⟩
  · intro i set hset
    have hindex := congrArg (·[i]?) (map_index_setsFrom hsets)
    have hi := (List.getElem?_eq_some_iff.1 hset).1
    simp only [List.getElem?_map, hset, List.getElem?_range hi] at hindex
    exact Option.some.inj hindex
  · intro i row set hrow hset
    exact hparts.build_getElem?_boundary hrow hset
  · intro i row set hrow hset
    exact hparts.build_getElem?_written hrow (hrows ▸ hset)
  · intro seed' sets' hsets'
    obtain ⟨boundary', written', random', rfl, hfixed', hparts'⟩ := exists_parts hsets'
    rw [hparts.filter_not_random, hparts'.filter_not_random]
    exact Except.ok.inj (hfixed'.symm.trans hfixed)

/-- A string that may be null, and one row written for it. -/
def greeting : ReferenceCase :=
  ⟨⟨"greet", [⟨"name", .cstring true, none, true, []⟩], .void⟩, .stringOps, [], "greet.c",
    [[.text "ab"]]⟩

theorem setsFor_stable_greeting : ∃ sets sets',
    setsFor .default greeting 1 8 = .ok sets ∧ setsFor .default greeting 2 8 = .ok sets' ∧
      sets.map (·.provenance) = List.replicate 6 .boundary ++ [.explicit, .random] ∧
      setsFor .default greeting 1 6 = .ok (sets.take 6) ∧
      sets'.filter (·.provenance ≠ .random) = sets.filter (·.provenance ≠ .random) := by
  have hfirst : (setsFor .default greeting 1 8).toOption.isSome := by decide +kernel
  have hsecond : (setsFor .default greeting 2 8).toOption.isSome := by decide +kernel
  obtain ⟨sets, hsets⟩ := Option.isSome_iff_exists.1 hfirst
  obtain ⟨sets', hsets'⟩ := Option.isSome_iff_exists.1 hsecond
  rw [toOption_eq_some_iff] at hsets hsets'
  obtain ⟨_, _, hprovenance, _, _, hfewer, hseeds⟩ :=
    setsFor_stable .default greeting 1 (by decide : 6 ≤ 8) hsets
  exact ⟨sets, sets', hsets, hsets', hprovenance, hfewer, hseeds 2 sets' hsets'⟩

end Counterpart.Generate
