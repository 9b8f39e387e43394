/-
The account of a schedule.  Every case that was taken is finished or in the hands of one
worker, and every result is with its worker, on the channel or received.  Each move keeps
the balance, so it can be read off the pool at the end.
-/
import Counterpart.Proofs.Pool.Schedule
import Mathlib.Algebra.BigOperators.Group.Multiset.Basic
import Mathlib.Algebra.GroupWithZero.Nat
import Mathlib.Data.Multiset.Range

namespace Counterpart

variable {ε α : Type}

namespace WorkerState

/-- The case a worker is running. -/
@[simp] def taken : WorkerState ε α → Multiset Nat
  | .running index => {index}
  | .idle | .ready | .raising _ _ | .sending _ _ | .stopped => 0

/-- The result a worker has not sent yet. -/
@[simp] def unsent : WorkerState ε α → Multiset (Nat × Except ε α)
  | .raising index error => {(index, .error error)}
  | .sending index result => {(index, result)}
  | .idle | .ready | .running _ | .stopped => 0

/-- What a worker does with the result of its case. -/
def holding (index : Nat) : Except ε α → WorkerState ε α
  | .ok a => .sending index (.ok a)
  | .error error => .raising index error

@[simp] theorem taken_holding (index : Nat) (result : Except ε α) :
    (holding index result).taken = 0 := by
  cases result <;> rfl

@[simp] theorem unsent_holding (index : Nat) (result : Except ε α) :
    (holding index result).unsent = {(index, result)} := by
  cases result <;> rfl

end WorkerState

namespace Pool

/-- A worker that changes its state changes a sum over all workers by its own part. -/
theorem sum_map_set {β M : Type} [AddCommMonoid M] (f : β → M) {l : List β} {w : Nat}
    {old : β} (hold : l[w]? = some old) (new : β) :
    f old + ((l.set w new).map f).sum = f new + (l.map f).sum := by
  induction l generalizing w with
  | nil => simp at hold
  | cons head tail ih =>
      cases w with
      | zero =>
          have hhead : head = old := by simpa using hold
          simp [hhead, add_left_comm]
      | succ w =>
          have htail := ih (w := w) (by simpa using hold)
          simp only [List.set_cons_succ, List.map_cons, List.sum_cons]
          rw [add_left_comm, htail, add_left_comm]

/-- The cases that workers are running. -/
def taken (workers : List (WorkerState ε α)) : Multiset Nat :=
  (workers.map WorkerState.taken).sum

/-- The results that workers have not sent yet. -/
def unsent (workers : List (WorkerState ε α)) : Multiset (Nat × Except ε α) :=
  (workers.map WorkerState.unsent).sum

theorem taken_set {workers : List (WorkerState ε α)} {w : Nat} {old : WorkerState ε α}
    (hold : workers[w]? = some old) (new : WorkerState ε α) :
    old.taken + taken (workers.set w new) = new.taken + taken workers :=
  sum_map_set WorkerState.taken hold new

theorem unsent_set {workers : List (WorkerState ε α)} {w : Nat} {old : WorkerState ε α}
    (hold : workers[w]? = some old) (new : WorkerState ε α) :
    old.unsent + unsent (workers.set w new) = new.unsent + unsent workers :=
  sum_map_set WorkerState.unsent hold new

theorem finish_eq (p : Pool ε α) (w index : Nat) (result : Except ε α) :
    p.finish w index result = p.withWorker w (.holding index result) := by
  cases result <;> rfl

/-- The error of a result. -/
def errorOf? (x : Nat × Except ε α) : Option ε :=
  match x.2 with
  | .ok _ => none
  | .error error => some error

/-- The slots after one more result. -/
def fill (slots : List (Option α)) (x : Nat × Except ε α) : List (Option α) :=
  match x.2 with
  | .ok a => slots.set x.1 (some a)
  | .error _ => slots

theorem accept_eq (p : Pool ε α) (index : Nat) (result : Except ε α) :
    p.accept index result =
      { p with
        slots := fill p.slots (index, result)
        firstError := p.firstError.or (errorOf? (index, result)) } := by
  cases result with
  | ok a => simp [accept, fill, errorOf?]
  | error error => rfl

/-- The result that an event hands to the receiver. -/
def received? (p : Pool ε α) : PoolEvent ε α → Option (Nat × Except ε α)
  | .receive => p.channel.head?
  | _ => none

namespace Moves

variable {p q : Pool ε α} {event : PoolEvent ε α}

theorem cases_eq (hmoves : Moves p event q) : q.cases = p.cases := by
  cases hmoves with
  | finish result _ => rw [finish_eq]; rfl
  | receive _ => rw [accept_eq]
  | _ => rfl

theorem length_workers (hmoves : Moves p event q) : q.workers.length = p.workers.length := by
  cases hmoves with
  | finish result _ => rw [finish_eq]; exact List.length_set
  | receive _ => rw [accept_eq]
  | _ => exact List.length_set

theorem next_le (hmoves : Moves p event q) : p.next ≤ q.next := by
  cases hmoves with
  | take _ => exact Nat.le_succ p.next
  | finish result _ => rw [finish_eq]; exact Nat.le_refl p.next
  | receive _ => rw [accept_eq]
  | _ => exact Nat.le_refl p.next

theorem aborted_mono (hmoves : Moves p event q) (haborted : p.aborted = true) :
    q.aborted = true := by
  cases hmoves with
  | raise _ => rfl
  | finish result _ => rw [finish_eq]; exact haborted
  | receive _ => rw [accept_eq]; exact haborted
  | _ => exact haborted

/-- Finished and running cases together change only by the one that is taken. -/
theorem taken_conserved (hmoves : Moves p event q) :
    (((p.finished? event).toList.map Prod.fst : List Nat) : Multiset Nat) + taken q.workers +
        Multiset.range (min p.next p.cases) =
      taken p.workers + Multiset.range (min q.next q.cases) := by
  cases hmoves with
  | look hidle =>
      have hset := taken_set hidle (if p.aborted then .stopped else .ready)
      have hnew : (if p.aborted then .stopped else .ready : WorkerState ε α).taken = 0 := by
        split <;> rfl
      rw [hnew, WorkerState.taken, zero_add, zero_add] at hset
      simpa [finished?, Pool.look, withWorker] using hset
  | take hready =>
      by_cases hnext : p.next < p.cases
      · have hset := taken_set hready (.running p.next)
        have hmin : min p.next p.cases = p.next := Nat.min_eq_left (Nat.le_of_lt hnext)
        have hmin' : min (p.next + 1) p.cases = p.next + 1 := Nat.min_eq_left hnext
        simp only [WorkerState.taken, zero_add] at hset
        rw [hmin, Pool.take, withWorker, hmin', if_pos hnext, hset, Multiset.range_succ]
        simp [finished?]
      · have hset := taken_set hready .stopped
        have hmin : min p.next p.cases = p.cases := by omega
        have hmin' : min (p.next + 1) p.cases = p.cases := by omega
        simp only [WorkerState.taken, zero_add] at hset
        simp [finished?, Pool.take, withWorker, hnext, hset, hmin, hmin']
  | @finish w index result hrunning =>
      have hset := taken_set hrunning (.holding index result)
      rw [WorkerState.taken_holding, zero_add] at hset
      rw [finish_eq, ← hset]
      simp [finished?, hrunning, withWorker, WorkerState.taken]
  | @raise w index error hraising =>
      have hset := taken_set hraising (.sending index (.error error))
      simpa [finished?, Pool.raise, withWorker] using hset
  | send hsending =>
      have hset := taken_set hsending .idle
      simpa [WorkerState.taken, finished?, Pool.send, withWorker] using hset
  | receive _ =>
      rw [accept_eq]
      simp [finished?]

/-- Results are not lost on their way from a worker over the channel to the receiver. -/
theorem results_conserved (hmoves : Moves p event q) :
    ((p.received? event).toList : Multiset (Nat × Except ε α)) + q.channel +
        unsent q.workers =
      p.channel + unsent p.workers + (p.finished? event).toList := by
  cases hmoves with
  | look hidle =>
      have hset := unsent_set hidle (if p.aborted then .stopped else .ready)
      have hnew : (if p.aborted then .stopped else .ready : WorkerState ε α).unsent = 0 := by
        split <;> rfl
      rw [hnew, WorkerState.unsent, zero_add, zero_add] at hset
      simpa [finished?, received?, Pool.look, withWorker] using hset
  | take hready =>
      have hset := unsent_set hready (if p.next < p.cases then .running p.next else .stopped)
      have hnew : (if p.next < p.cases then .running p.next else .stopped :
          WorkerState ε α).unsent = 0 := by
        split <;> rfl
      rw [hnew, WorkerState.unsent, zero_add, zero_add] at hset
      simpa [finished?, received?, Pool.take, withWorker] using hset
  | @finish w index result hrunning =>
      have hset := unsent_set hrunning (.holding index result)
      rw [WorkerState.unsent_holding] at hset
      simp only [WorkerState.unsent, zero_add] at hset
      rw [finish_eq]
      simp [finished?, received?, hrunning, withWorker, hset, add_comm]
  | @raise w index error hraising =>
      have hset := unsent_set hraising (.sending index (.error error))
      simpa [finished?, received?, Pool.raise, withWorker] using hset
  | @send w index result hsending =>
      have hset := unsent_set hsending .idle
      simp only [WorkerState.unsent, zero_add] at hset
      simp [finished?, received?, Pool.send, withWorker, ← hset, ← Multiset.coe_add, add_assoc]
  | receive hchannel =>
      rw [accept_eq]
      simp [finished?, received?, hchannel]

theorem slots_eq (hmoves : Moves p event q) :
    q.slots = (p.received? event).toList.foldl fill p.slots := by
  cases hmoves with
  | finish result _ => rw [finish_eq]; rfl
  | receive hchannel => rw [accept_eq]; simp [received?, hchannel]
  | _ => rfl

theorem firstError_eq (hmoves : Moves p event q) :
    q.firstError = p.firstError.or ((p.received? event).bind errorOf?) := by
  cases hmoves with
  | finish result _ => rw [finish_eq]; simp [received?, withWorker]
  | receive hchannel => rw [accept_eq]; simp [received?, hchannel]
  | _ => simp [received?, Pool.look, Pool.take, Pool.raise, Pool.send, withWorker]

/-- Only a worker with an error in its hands calls the run off. -/
theorem aborted_only (hmoves : Moves p event q) (haborted : q.aborted = true) :
    p.aborted = true ∨ ∃ index error, (index, .error error) ∈ unsent p.workers := by
  cases hmoves with
  | @raise w index error hraising =>
      have hset := unsent_set hraising .idle
      simp only [WorkerState.unsent, zero_add] at hset
      exact Or.inr ⟨index, error, hset ▸ Multiset.mem_add.2 (Or.inl (by simp))⟩
  | finish result _ => rw [finish_eq] at haborted; exact Or.inl haborted
  | receive _ => rw [accept_eq] at haborted; exact Or.inl haborted
  | _ => exact Or.inl haborted

/-- A worker stops because the run is called off or because no case is left. -/
theorem stopped_only (hmoves : Moves p event q) (hstopped : .stopped ∈ q.workers) :
    .stopped ∈ p.workers ∨ q.aborted = true ∨ q.cases ≤ q.next := by
  cases hmoves with
  | look hidle =>
      rcases List.mem_or_eq_of_mem_set hstopped with hold | hnew
      · exact Or.inl hold
      · split at hnew
        · next haborted => exact Or.inr (Or.inl haborted)
        · cases hnew
  | take hready =>
      rcases List.mem_or_eq_of_mem_set hstopped with hold | hnew
      · exact Or.inl hold
      · split at hnew
        · cases hnew
        · next hnext => exact Or.inr (Or.inr (by simp [Pool.take, withWorker]; omega))
  | finish result _ =>
      rw [finish_eq] at hstopped
      rcases List.mem_or_eq_of_mem_set hstopped with hold | hnew
      · exact Or.inl hold
      · cases result <;> cases hnew
  | raise _ | send _ =>
      rcases List.mem_or_eq_of_mem_set hstopped with hold | hnew
      · exact Or.inl hold
      · cases hnew
  | receive _ => rw [accept_eq] at hstopped; exact Or.inl hstopped

end Moves

/-- What a pool over `cases` cases owes to the results of the cases that were `ran` and to
those that were `received`. -/
structure Account (cases : Nat) (p : Pool ε α) (ran received : List (Nat × Except ε α)) :
    Prop where
  cases_eq : p.cases = cases
  staffed : p.workers ≠ []
  taken_eq : ((ran.map Prod.fst : List Nat) : Multiset Nat) + taken p.workers =
    Multiset.range (min p.next p.cases)
  results_eq : (received : Multiset (Nat × Except ε α)) + (p.channel + unsent p.workers) = ran
  slots_eq : p.slots = received.foldl fill (List.replicate cases none)
  firstError_eq : p.firstError = received.findSome? errorOf?
  aborted_only : p.aborted = true → ∃ index error, (index, .error error) ∈ ran
  stopped_only : .stopped ∈ p.workers → p.aborted = true ∨ p.cases ≤ p.next

theorem workerCount_pos (wanted cases : Nat) : 0 < workerCount wanted cases := by
  simp only [workerCount]
  omega

theorem account_start (wanted cases : Nat) :
    Account cases (start wanted cases : Pool ε α) [] [] where
  cases_eq := rfl
  staffed := by
    have hpos := workerCount_pos wanted cases
    simp only [start, ne_eq, List.replicate_eq_nil_iff]
    omega
  taken_eq := by simp [start, taken]
  results_eq := by simp [start, unsent]
  slots_eq := rfl
  firstError_eq := rfl
  aborted_only := by simp [start]
  stopped_only := by simp [start, List.mem_replicate]

/-- Every move keeps the account. -/
theorem Account.move {cases : Nat} {p q : Pool ε α} {ran received : List (Nat × Except ε α)}
    {event : PoolEvent ε α} (haccount : Account cases p ran received)
    (hmoves : Moves p event q) :
    Account cases q (ran ++ (p.finished? event).toList)
      (received ++ (p.received? event).toList) where
  cases_eq := hmoves.cases_eq.trans haccount.cases_eq
  staffed := by
    have hlength := hmoves.length_workers
    have hstaffed := List.length_pos_iff.2 haccount.staffed
    exact List.length_pos_iff.1 (by omega)
  taken_eq := by
    have hconserved := hmoves.taken_conserved
    have hrange := haccount.taken_eq
    apply add_right_cancel (b := Multiset.range (min p.next p.cases))
    rw [List.map_append, ← Multiset.coe_add, add_assoc, add_assoc, ← add_assoc _ (taken _),
      hconserved, ← add_assoc, hrange, add_comm]
  results_eq := by
    have hconserved := hmoves.results_conserved
    have hran := haccount.results_eq
    rw [← Multiset.coe_add, ← Multiset.coe_add, add_assoc, ← add_assoc _ _ (unsent _),
      hconserved, ← add_assoc, hran]
  slots_eq := by
    rw [hmoves.slots_eq, haccount.slots_eq, List.foldl_append]
  firstError_eq := by
    rw [hmoves.firstError_eq, haccount.firstError_eq, List.findSome?_append]
    cases p.received? event <;> simp
  aborted_only := by
    intro haborted
    rcases hmoves.aborted_only haborted with hbefore | ⟨index, error, hunsent⟩
    · obtain ⟨index, error, hmem⟩ := haccount.aborted_only hbefore
      exact ⟨index, error, List.mem_append_left _ hmem⟩
    · have hmem : (index, .error error) ∈ (ran : Multiset (Nat × Except ε α)) := by
        rw [← haccount.results_eq]
        simp [hunsent]
      exact ⟨index, error, List.mem_append_left _ (Multiset.mem_coe.1 hmem)⟩
  stopped_only := by
    intro hstopped
    rcases hmoves.stopped_only hstopped with hbefore | hnow
    · rcases haccount.stopped_only hbefore with haborted | hnext
      · exact Or.inl (hmoves.aborted_mono haborted)
      · exact Or.inr (hmoves.cases_eq ▸ Nat.le_trans hnext hmoves.next_le)
    · exact hnow

/-- A schedule keeps the account. -/
theorem Account.replay {cases : Nat} {p last : Pool ε α}
    {before received : List (Nat × Except ε α)} (events : List (PoolEvent ε α))
    (haccount : Account cases p before received) (hreplay : p.replay? events = some last) :
    ∃ received', Account cases last (before ++ p.ran events) received' := by
  induction events generalizing p before received with
  | nil =>
      cases hreplay
      exact ⟨received, by simpa [ran] using haccount⟩
  | cons event rest ih =>
      obtain ⟨next, hstep, hrest⟩ := replay?_cons_eq_some_iff.1 hreplay
      have hnext := haccount.move (step?_eq_some_iff.1 hstep)
      obtain ⟨received', hlast⟩ := ih hnext hrest
      exact ⟨received', by rwa [ran_cons hstep, ← List.append_assoc]⟩

end Pool

end Counterpart
