/-
Schedules of a pool.  A schedule is any list of events that can happen one after another;
what an event does is said once here, and every later argument about a schedule goes
through its moves.
-/
import Counterpart.Harness.Pool

namespace Counterpart.Pool

variable {ε α : Type}

/-- What an event does to the pool, and when it can happen. -/
inductive Moves (p : Pool ε α) : PoolEvent ε α → Pool ε α → Prop where
  | look {w : Nat} (hidle : p.workers[w]? = some .idle) : Moves p (.look w) (p.look w)
  | take {w : Nat} (hready : p.workers[w]? = some .ready) : Moves p (.take w) (p.take w)
  | finish {w index : Nat} (result : Except ε α)
      (hrunning : p.workers[w]? = some (.running index)) :
      Moves p (.finish w result) (p.finish w index result)
  | raise {w index : Nat} {error : ε}
      (hraising : p.workers[w]? = some (.raising index error)) :
      Moves p (.raise w) (p.raise w index error)
  | send {w index : Nat} {result : Except ε α}
      (hsending : p.workers[w]? = some (.sending index result)) :
      Moves p (.send w) (p.send w index result)
  | receive {index : Nat} {result : Except ε α} {rest : List (Nat × Except ε α)}
      (hchannel : p.channel = (index, result) :: rest) :
      Moves p .receive ({ p with channel := rest }.accept index result)

theorem step?_eq_some_iff {p q : Pool ε α} {event : PoolEvent ε α} :
    p.step? event = some q ↔ Moves p event q := by
  constructor
  · intro hstep
    cases event with
    | look w =>
        simp only [step?] at hstep
        split at hstep
        · next hidle => cases hstep; exact .look hidle
        · cases hstep
    | take w =>
        simp only [step?] at hstep
        split at hstep
        · next hready => cases hstep; exact .take hready
        · cases hstep
    | finish w result =>
        simp only [step?] at hstep
        split at hstep
        · next hrunning => cases hstep; exact .finish result hrunning
        · cases hstep
    | raise w =>
        simp only [step?] at hstep
        split at hstep
        · next hraising => cases hstep; exact .raise hraising
        · cases hstep
    | send w =>
        simp only [step?] at hstep
        split at hstep
        · next hsending => cases hstep; exact .send hsending
        · cases hstep
    | receive =>
        simp only [step?] at hstep
        split at hstep
        · cases hstep
        · next hchannel => cases hstep; exact .receive hchannel
  · intro hmoves
    cases hmoves with
    | look hidle => simp [step?, hidle]
    | take hready => simp [step?, hready]
    | finish result hrunning => simp [step?, hrunning]
    | raise hraising => simp [step?, hraising]
    | send hsending => simp [step?, hsending]
    | receive hchannel => simp [step?, hchannel]

/-- The case that an event brings to an end, with its result. -/
def finished? (p : Pool ε α) : PoolEvent ε α → Option (Nat × Except ε α)
  | .finish w result =>
      match p.workers[w]? with
      | some (.running index) => some (index, result)
      | _ => none
  | _ => none

/-- The pool after a schedule, if each of its events can happen in turn. -/
def replay? (p : Pool ε α) : List (PoolEvent ε α) → Option (Pool ε α)
  | [] => some p
  | event :: rest => (p.step? event).bind fun next => next.replay? rest

/-- The cases that are run along a schedule, in the order in which they end, with what
each run returned. -/
def ran (p : Pool ε α) : List (PoolEvent ε α) → List (Nat × Except ε α)
  | [] => []
  | event :: rest =>
      (p.finished? event).toList ++ ((p.step? event).elim [] fun next => next.ran rest)

theorem replay?_cons_eq_some_iff {p last : Pool ε α} {event : PoolEvent ε α}
    {rest : List (PoolEvent ε α)} :
    p.replay? (event :: rest) = some last ↔
      ∃ next, p.step? event = some next ∧ next.replay? rest = some last := by
  simp [replay?, Option.bind_eq_some_iff]

theorem ran_cons {p next : Pool ε α} {event : PoolEvent ε α}
    (hstep : p.step? event = some next) (rest : List (PoolEvent ε α)) :
    p.ran (event :: rest) = (p.finished? event).toList ++ next.ran rest := by
  simp [ran, hstep]

end Counterpart.Pool
