/-
Every schedule comes to an end, and the schedule that `drive` follows is a complete one.
Each move lowers the number of steps that are still possible; a pool that is not done can
always move.
-/
import Counterpart.Proofs.Pool.Outcome

namespace Counterpart

variable {ε α σ : Type}

/-- The most steps a worker may still take, and the receiver for it, without another
case. -/
@[simp] def WorkerState.stepsLeft : WorkerState ε α → Nat
  | .running _ => 6
  | .raising _ _ => 5
  | .sending _ _ => 4
  | .idle => 2
  | .ready => 1
  | .stopped => 0

namespace Pool

/-- The most steps that are still possible. -/
def stepsLeft (p : Pool ε α) : Nat :=
  6 * (p.cases - p.next) + (p.workers.map WorkerState.stepsLeft).sum + p.channel.length

theorem stepsLeft_start (wanted cases : Nat) :
    (start wanted cases : Pool ε α).stepsLeft = (start wanted cases : Pool ε α).stepBound := by
  simp [stepsLeft, stepBound, start, Nat.mul_comm]

/-- Every move uses up a step. -/
theorem Moves.stepsLeft_lt {p q : Pool ε α} {event : PoolEvent ε α}
    (hmoves : Moves p event q) : q.stepsLeft < p.stepsLeft := by
  cases hmoves with
  | look hidle =>
      have hset := sum_map_set WorkerState.stepsLeft hidle
        (if p.aborted then .stopped else .ready)
      have hnew : (if p.aborted then .stopped else .ready : WorkerState ε α).stepsLeft ≤ 1 := by
        split <;> simp
      rw [WorkerState.stepsLeft] at hset
      simp only [stepsLeft, Pool.look, withWorker]
      omega
  | take hready =>
      by_cases hnext : p.next < p.cases
      · have hset := sum_map_set WorkerState.stepsLeft hready (.running p.next)
        simp only [WorkerState.stepsLeft] at hset
        simp only [stepsLeft, Pool.take, withWorker, hnext, if_true]
        omega
      · have hset := sum_map_set WorkerState.stepsLeft hready .stopped
        simp only [WorkerState.stepsLeft] at hset
        simp only [stepsLeft, Pool.take, withWorker, hnext, if_false]
        omega
  | @finish w index result hrunning =>
      have hset := sum_map_set WorkerState.stepsLeft hrunning (.holding index result)
      have hnew : (WorkerState.holding index result).stepsLeft ≤ 5 := by
        cases result <;> simp [WorkerState.holding]
      rw [WorkerState.stepsLeft] at hset
      rw [finish_eq]
      simp only [stepsLeft, withWorker]
      omega
  | @raise w index error hraising =>
      have hset := sum_map_set WorkerState.stepsLeft hraising (.sending index (.error error))
      simp only [WorkerState.stepsLeft] at hset
      simp only [stepsLeft, Pool.raise, withWorker]
      omega
  | send hsending =>
      have hset := sum_map_set WorkerState.stepsLeft hsending .idle
      simp only [WorkerState.stepsLeft] at hset
      simp only [stepsLeft, Pool.send, withWorker, List.length_append, List.length_singleton]
      omega
  | receive hchannel =>
      rw [accept_eq]
      simp only [stepsLeft, hchannel, List.length_cons]
      omega

/-- A schedule has no more events than steps were left. -/
theorem length_le_of_replay? {p last : Pool ε α} {events : List (PoolEvent ε α)}
    (hreplay : p.replay? events = some last) : events.length ≤ p.stepsLeft := by
  induction events generalizing p with
  | nil => exact Nat.zero_le _
  | cons event rest ih =>
      obtain ⟨next, hstep, hrest⟩ := replay?_cons_eq_some_iff.1 hreplay
      have hlt := (step?_eq_some_iff.1 hstep).stepsLeft_lt
      have hle := ih hrest
      simp only [List.length_cons]
      omega

theorem getElem?_of_mem_numbered {β : Type} {l : List β} {w : Nat} {b : β}
    (hmem : (w, b) ∈ (List.range l.length).zip l) : l[w]? = some b := by
  obtain ⟨k, hk, hget⟩ := List.mem_iff_getElem.1 hmem
  simp only [List.getElem_zip, List.getElem_range, Prod.mk.injEq] at hget
  obtain ⟨rfl, rfl⟩ := hget
  simp

/-- What a duty asks for can be done, and only a case to run ends a case. -/
def Duty.Possible (p : Pool ε α) : Duty ε α → Prop
  | .step event => p.finished? event = none ∧ ∃ q, p.step? event = some q
  | .case w index => p.workers[w]? = some (.running index)

theorem possible_of_dutyOf? {p : Pool ε α} {w : Nat} {state : WorkerState ε α}
    {duty : Duty ε α} (hworker : p.workers[w]? = some state)
    (hduty : dutyOf? w state = some duty) : duty.Possible p := by
  cases state <;> cases hduty
  case running index => exact hworker
  all_goals simp [Duty.Possible, finished?, step?, hworker]

theorem possible_of_duty? {p : Pool ε α} {duty : Duty ε α} (hduty : p.duty? = some duty) :
    duty.Possible p := by
  simp only [duty?] at hduty
  split at hduty
  · obtain ⟨⟨w, state⟩, hmem, hstate⟩ := List.exists_of_findSome?_eq_some hduty
    exact possible_of_dutyOf? (getElem?_of_mem_numbered hmem) hstate
  · next hchannel =>
      cases hduty
      cases hpending : p.channel with
      | nil => simp [hpending] at hchannel
      | cons x rest => exact ⟨rfl, _, by simp only [step?, hpending]; rfl⟩

theorem isDone_of_duty?_eq_none {p : Pool ε α} (hduty : p.duty? = none) : p.isDone = true := by
  simp only [duty?] at hduty
  split at hduty
  · next hchannel =>
      refine isDone_iff.2 ⟨List.isEmpty_iff.1 hchannel, fun state hmem => ?_⟩
      obtain ⟨w, hw, hget⟩ := List.mem_iff_getElem.1 hmem
      have hnumbered : (w, state) ∈ (List.range p.workers.length).zip p.workers :=
        List.mem_iff_getElem.2 ⟨w, by simpa using hw, by simp [hget]⟩
      have hnone := List.findSome?_eq_none_iff.1 hduty _ hnumbered
      cases state <;> first | rfl | cases hnone
  · cases hduty

/-- A pool with a duty has a step left; a case to run needs some result for it. -/
theorem stepsLeft_pos_of_duty? {p : Pool ε α} {duty : Duty ε α} (hduty : p.duty? = some duty)
    (result : Except ε α) : 0 < p.stepsLeft := by
  have hpossible := possible_of_duty? hduty
  cases duty with
  | step event =>
      obtain ⟨_, q, hstep⟩ := hpossible
      exact Nat.zero_lt_of_lt (step?_eq_some_iff.1 hstep).stepsLeft_lt
  | case w index => exact Nat.zero_lt_of_lt (Moves.finish result hpossible).stepsLeft_lt

variable (run : Nat → StateM σ (Except ε α)) (steps : Nat)

theorem drive_of_step {p q : Pool ε α} {event : PoolEvent ε α}
    (hduty : p.duty? = some (.step event)) (hstep : p.step? event = some q) :
    p.drive run (steps + 1) = q.drive run steps := by
  simp [drive, hduty, hstep]

theorem run_drive_of_case {p q : Pool ε α} {w index : Nat} {s : σ}
    (hduty : p.duty? = some (.case w index))
    (hstep : p.step? (.finish w ((run index).run s).1) = some q) :
    (p.drive run (steps + 1)).run s = (q.drive run steps).run ((run index).run s).2 := by
  simp only [drive, hduty]
  change ((p.step? (.finish w ((run index).run s).1)).getD p).drive run steps _ = _
  rw [hstep]
  rfl

/-- With as many steps as may be left, `drive` follows a complete schedule in which every
case ends with what running it returned.  What running a case keeps true of the state held
whenever a case was run. -/
theorem exists_replay?_drive {ready : σ → Prop}
    (hkeep : ∀ index s, ready s → ready ((run index).run s).2) {steps : Nat} {p : Pool ε α}
    (hsteps : p.stepsLeft ≤ steps) (s : σ) (hs : ready s) :
    ∃ events last, p.replay? events = some last ∧ last.isDone = true ∧
      ((p.drive run steps).run s).1 = last ∧
      ∀ x ∈ p.ran events, ∃ s', ready s' ∧ ((run x.1).run s').1 = x.2 := by
  induction steps generalizing p s with
  | zero =>
      cases hduty : p.duty? with
      | none => exact ⟨[], p, rfl, isDone_of_duty?_eq_none hduty, rfl, by simp [ran]⟩
      | some duty =>
          have hpos := stepsLeft_pos_of_duty? hduty ((run 0).run s).1
          omega
  | succ steps ih =>
      cases hduty : p.duty? with
      | none =>
          refine ⟨[], p, rfl, isDone_of_duty?_eq_none hduty, ?_, by simp [ran]⟩
          simp only [drive, hduty]
          rfl
      | some duty =>
          have hpossible := possible_of_duty? hduty
          cases duty with
          | step event =>
              obtain ⟨hfinished, q, hstep⟩ := hpossible
              have hlt := (step?_eq_some_iff.1 hstep).stepsLeft_lt
              obtain ⟨events, last, hreplay, hdone, hdrive, hran⟩ := ih (p := q) (by omega) s hs
              refine ⟨event :: events, last, replay?_cons_eq_some_iff.2 ⟨q, hstep, hreplay⟩,
                hdone, ?_, ?_⟩
              · rw [drive_of_step run steps hduty hstep]
                exact hdrive
              · rw [ran_cons hstep, hfinished]
                exact hran
          | case w index =>
              -- The only event at which the state changes.
              have hrunning : p.workers[w]? = some (.running index) := hpossible
              have hmoves := Moves.finish ((run index).run s).1 hrunning
              have hstep := step?_eq_some_iff.2 hmoves
              have hlt := hmoves.stepsLeft_lt
              obtain ⟨events, last, hreplay, hdone, hdrive, hran⟩ :=
                ih (Nat.le_of_lt_succ (Nat.lt_of_lt_of_le hlt hsteps)) ((run index).run s).2
                  (hkeep index s hs)
              refine ⟨_ :: events, last, replay?_cons_eq_some_iff.2 ⟨_, hstep, hreplay⟩,
                hdone, ?_, ?_⟩
              · rw [run_drive_of_case run steps hduty hstep]
                exact hdrive
              · rw [ran_cons hstep]
                intro x hx
                rcases List.mem_append.1 hx with hnow | hlater
                · have hx : x = (index, ((run index).run s).1) := by
                    simpa [finished?, hrunning, eq_comm] using hnow
                  exact ⟨s, hs, by rw [hx]⟩
                · exact hran x hlater

end Pool

end Counterpart
