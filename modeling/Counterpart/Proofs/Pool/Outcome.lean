/-
What a pool comes to when every worker has stopped and every result is received.  No case
ran twice; without an error every case ran and has its slot; with one the outcome is an
error of a case that ran.
-/
import Counterpart.Proofs.Pool.Account

namespace Counterpart.Pool

variable {ε α : Type}

theorem isDone_iff {p : Pool ε α} :
    p.isDone = true ↔ p.channel = [] ∧ ∀ state ∈ p.workers, state = .stopped := by
  simp only [isDone, Bool.and_eq_true, List.isEmpty_iff, List.all_eq_true]
  constructor
  · rintro ⟨hchannel, hworkers⟩
    refine ⟨hchannel, ?_⟩
    intro state hmem
    have hstopped := hworkers state hmem
    cases state <;> first | rfl | cases hstopped
  · rintro ⟨hchannel, hworkers⟩
    refine ⟨hchannel, ?_⟩
    intro state hmem
    rw [hworkers state hmem]

theorem length_fill (slots : List (Option α)) (x : Nat × Except ε α) :
    (fill slots x).length = slots.length := by
  obtain ⟨index, result⟩ := x
  cases result <;> simp [fill]

theorem length_foldl_fill (received : List (Nat × Except ε α)) (slots : List (Option α)) :
    (received.foldl fill slots).length = slots.length := by
  induction received generalizing slots with
  | nil => rfl
  | cons x rest ih => rw [List.foldl_cons, ih, length_fill]

/-- Results of other cases leave a slot alone. -/
theorem getElem?_foldl_fill_of_notMem {received : List (Nat × Except ε α)} {i : Nat}
    (hindex : i ∉ received.map Prod.fst) (slots : List (Option α)) :
    (received.foldl fill slots)[i]? = slots[i]? := by
  induction received generalizing slots with
  | nil => rfl
  | cons x rest ih =>
      obtain ⟨index, result⟩ := x
      simp only [List.map_cons, List.mem_cons, not_or] at hindex
      rw [List.foldl_cons, ih hindex.2]
      cases result with
      | ok a => simp [fill, List.getElem?_set_ne (Ne.symm hindex.1)]
      | error _ => rfl

/-- A slot holds what its case returned, wherever it stands among the results. -/
theorem getElem?_foldl_fill {received : List (Nat × Except ε α)} {i : Nat} {a : α}
    (hnodup : (received.map Prod.fst).Nodup) (hmem : (i, .ok a) ∈ received)
    {slots : List (Option α)} (hi : i < slots.length) :
    (received.foldl fill slots)[i]? = some (some a) := by
  induction received generalizing slots with
  | nil => cases hmem
  | cons x rest ih =>
      rw [List.map_cons, List.nodup_cons] at hnodup
      rw [List.foldl_cons]
      rcases List.mem_cons.1 hmem with hhead | htail
      · subst hhead
        rw [getElem?_foldl_fill_of_notMem hnodup.1]
        exact List.getElem?_set_self hi
      · exact ih hnodup.2 htail (by rwa [length_fill])

namespace Account

variable {cases : Nat} {p : Pool ε α} {ran received : List (Nat × Except ε α)}

theorem taken_perm (haccount : Account cases p ran received) (hdone : p.isDone = true) :
    (ran.map Prod.fst).Perm (List.range (min p.next cases)) := by
  obtain ⟨_, hworkers⟩ := isDone_iff.1 hdone
  have htaken : taken p.workers = 0 := by
    rw [List.eq_replicate_of_mem hworkers]
    simp [taken]
  have heq := haccount.taken_eq
  rw [htaken, add_zero, haccount.cases_eq] at heq
  exact Multiset.coe_eq_coe.1 heq

theorem received_perm (haccount : Account cases p ran received) (hdone : p.isDone = true) :
    received.Perm ran := by
  obtain ⟨hchannel, hworkers⟩ := isDone_iff.1 hdone
  have hunsent : unsent p.workers = 0 := by
    rw [List.eq_replicate_of_mem hworkers]
    simp [unsent]
  have heq := haccount.results_eq
  rw [hchannel, hunsent, Multiset.coe_nil, add_zero, add_zero] at heq
  exact Multiset.coe_eq_coe.1 heq

/-- No case was run twice. -/
theorem nodup (haccount : Account cases p ran received) (hdone : p.isDone = true) :
    (ran.map Prod.fst).Nodup :=
  (haccount.taken_perm hdone).nodup_iff.2 List.nodup_range

/-- If no case fails, no case is skipped. -/
theorem all_ran (haccount : Account cases p ran received) (hdone : p.isDone = true)
    (hok : ∀ x ∈ ran, ∃ a, x.2 = .ok a) :
    (ran.map Prod.fst).Perm (List.range cases) := by
  obtain ⟨_, hworkers⟩ := isDone_iff.1 hdone
  have hstopped : .stopped ∈ p.workers := by
    obtain ⟨state, hstate⟩ := List.exists_mem_of_ne_nil p.workers haccount.staffed
    exact hworkers state hstate ▸ hstate
  have hnext : cases ≤ p.next := by
    rcases haccount.stopped_only hstopped with haborted | hnext
    · obtain ⟨index, error, hmem⟩ := haccount.aborted_only haborted
      obtain ⟨a, ha⟩ := hok _ hmem
      cases ha
    · exact haccount.cases_eq ▸ hnext
  have hperm := haccount.taken_perm hdone
  rwa [Nat.min_eq_right hnext] at hperm

/-- If no case fails, every slot holds what its case returned. -/
theorem outcome_ok [Inhabited α] (haccount : Account cases p ran received)
    (hdone : p.isDone = true) (hok : ∀ x ∈ ran, ∃ a, x.2 = .ok a) :
    ∃ results, p.outcome = .ok results ∧ results.length = cases ∧
      ∀ i a, (i, .ok a) ∈ ran ↔ results[i]? = some a := by
  have hreceived := haccount.received_perm hdone
  have hnodup : (received.map Prod.fst).Nodup :=
    (hreceived.map Prod.fst).nodup_iff.2 (haccount.nodup hdone)
  have hfirst : p.firstError = none := by
    rw [haccount.firstError_eq, List.findSome?_eq_none_iff]
    intro x hx
    obtain ⟨a, ha⟩ := hok x (hreceived.mem_iff.1 hx)
    simp [errorOf?, ha]
  have hlength : p.slots.length = cases := by
    rw [haccount.slots_eq, length_foldl_fill, List.length_replicate]
  have hlt : ∀ {i a}, (i, .ok a) ∈ ran → i < cases := by
    intro i a hmem
    have hrange := (haccount.all_ran hdone hok).mem_iff.1 (List.mem_map_of_mem hmem)
    exact List.mem_range.1 hrange
  have hslot : ∀ {i a}, (i, .ok a) ∈ ran → p.slots[i]? = some (some a) := by
    intro i a hmem
    rw [haccount.slots_eq]
    exact getElem?_foldl_fill hnodup (hreceived.mem_iff.2 hmem) (by simpa using hlt hmem)
  refine ⟨p.slots.map (·.getD default), by simp [outcome, hfirst], by simpa using hlength, ?_⟩
  intro i a
  constructor
  · intro hmem
    simp [List.getElem?_map, hslot hmem]
  · intro hget
    have hi : i < cases := by
      have hbound := (List.getElem?_eq_some_iff.1 hget).1
      simpa [hlength] using hbound
    have hran : i ∈ ran.map Prod.fst :=
      (haccount.all_ran hdone hok).mem_iff.2 (List.mem_range.2 hi)
    obtain ⟨⟨index, result⟩, hmem, rfl⟩ := List.mem_map.1 hran
    obtain ⟨b, rfl⟩ := hok _ hmem
    have hb : b = a := by simpa [List.getElem?_map, hslot hmem] using hget
    exact hb ▸ hmem

/-- If a case fails, the outcome is the error of a case that failed. -/
theorem outcome_error [Inhabited α] (haccount : Account cases p ran received)
    (hdone : p.isDone = true) {index : Nat} {error : ε} (hmem : (index, .error error) ∈ ran) :
    ∃ i e, (i, .error e) ∈ ran ∧ p.outcome = .error e := by
  have hreceived := haccount.received_perm hdone
  cases hfirst : p.firstError with
  | none =>
      rw [haccount.firstError_eq, List.findSome?_eq_none_iff] at hfirst
      cases hfirst _ (hreceived.mem_iff.2 hmem)
  | some e =>
      have hfound := haccount.firstError_eq.symm.trans hfirst
      obtain ⟨⟨i, result⟩, hx, he⟩ := List.exists_of_findSome?_eq_some hfound
      cases result with
      | ok a => cases he
      | error e' =>
          cases he
          exact ⟨i, e, hreceived.mem_iff.1 hx, by simp [outcome, hfirst]⟩

end Account

end Counterpart.Pool
