/-
The generated sets of a signature are numbered from zero on.
-/
import Counterpart.Generate.Sets
import Counterpart.Proofs.Except

namespace Counterpart.Generate

variable {config : GeneratorConfig} {sig : Signature} {sets : List ArgumentSet}

theorem map_index_fixedSets {ρ : Type} {provenance : Provenance}
    {build : ρ → Except InputError (List ArgValue)} {count index : Nat} {rows : List ρ}
    (hsets : fixedSets provenance build count index rows = .ok sets) :
    sets.map (·.index) = List.range' index sets.length := by
  induction count generalizing index rows sets with
  | zero =>
      cases hsets
      rfl
  | succ count ih =>
      cases rows with
      | nil =>
          cases hsets
          rfl
      | cons row rows =>
          obtain ⟨values, _, hsets⟩ := bind_eq_ok_iff.1 hsets
          obtain ⟨rest, hrest, hall⟩ := bind_eq_ok_iff.1 hsets
          cases hall
          exact congrArg (index :: ·) (ih hrest)

theorem map_index_randomSets {count index : Nat} {stream : Stream}
    (hsets : randomSets config sig count index stream = .ok sets) :
    sets.map (·.index) = List.range' index sets.length := by
  induction count generalizing index stream sets with
  | zero =>
      cases hsets
      rfl
  | succ count ih =>
      obtain ⟨⟨values, stream'⟩, _, hsets⟩ := bind_eq_ok_iff.1 hsets
      obtain ⟨rest, hrest, hall⟩ := bind_eq_ok_iff.1 hsets
      cases hall
      exact congrArg (index :: ·) (ih hrest)

/-- Sets numbered from where the sets in front of them end. -/
theorem map_index_append {front back : List ArgumentSet}
    (hfront : front.map (·.index) = List.range front.length)
    (hback : back.map (·.index) = List.range' front.length back.length) :
    (front ++ back).map (·.index) = List.range (front ++ back).length := by
  have hrange := @List.range'_append_1 0 front.length back.length
  rw [Nat.zero_add] at hrange
  rw [List.map_append, hfront, hback, List.length_append, List.range_eq_range',
    List.range_eq_range', hrange]

/-- The number of a set is its position, whichever kind of row it comes from. -/
theorem map_index_setsFrom {stream : Stream} {explicit : List (List ExplicitValue)} {count : Nat}
    (hsets : setsFrom stream config sig explicit count = .ok sets) :
    sets.map (·.index) = List.range sets.length := by
  obtain ⟨boundary, hboundary, hsets⟩ := bind_eq_ok_iff.1 hsets
  obtain ⟨written, hwritten, hsets⟩ := bind_eq_ok_iff.1 hsets
  obtain ⟨random, hrandom, hall⟩ := bind_eq_ok_iff.1 hsets
  cases hall
  have hfirst := map_index_fixedSets hboundary
  rw [← List.range_eq_range'] at hfirst
  have hfixed := map_index_append hfirst (map_index_fixedSets hwritten)
  exact map_index_append hfixed (map_index_randomSets hrandom)

end Counterpart.Generate
