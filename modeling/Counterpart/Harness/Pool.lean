/-
A pool of workers that share the cases of a run.  The pool is a transition system: every
event is one indivisible step of a worker or of the receiver, so any interleaving of them
is a list of events.  Results come over a channel and are put into the slot of their case.
-/

namespace Counterpart

/-- What a worker is about to do. -/
inductive WorkerState (ε α : Type) where
  /-- To look whether the run is called off. -/
  | idle
  /-- To take the next case. -/
  | ready
  /-- To finish the case it has taken. -/
  | running (index : Nat)
  /-- To call the run off because of an error. -/
  | raising (index : Nat) (error : ε)
  /-- To send the result of its case. -/
  | sending (index : Nat) (result : Except ε α)
  | stopped

/-- The common state of workers and receiver. -/
structure Pool (ε α : Type) where
  /-- The number of cases. -/
  cases : Nat
  workers : List (WorkerState ε α)
  /-- The case that is taken next. -/
  next : Nat
  /-- Whether the run is called off. -/
  aborted : Bool
  /-- Results on their way, the oldest first. -/
  channel : List (Nat × Except ε α)
  /-- The results received, by case. -/
  slots : List (Option α)
  /-- The first error received. -/
  firstError : Option ε

/-- One step of a worker, given by its position, or of the receiver. -/
inductive PoolEvent (ε α : Type) where
  | look (worker : Nat)
  | take (worker : Nat)
  | finish (worker : Nat) (result : Except ε α)
  | raise (worker : Nat)
  | send (worker : Nat)
  | receive

namespace Pool

variable {ε α : Type}

/-- The number of workers for a number of cases: at least one, and no more than cases. -/
def workerCount (wanted cases : Nat) : Nat :=
  min (max wanted 1) (max cases 1)

/-- The pool before the first step. -/
def start (wanted cases : Nat) : Pool ε α :=
  { cases := cases
    workers := List.replicate (workerCount wanted cases) .idle
    next := 0
    aborted := false
    channel := []
    slots := List.replicate cases none
    firstError := none }

/-- The pool with a worker in another state. -/
def withWorker (p : Pool ε α) (worker : Nat) (state : WorkerState ε α) : Pool ε α :=
  { p with workers := p.workers.set worker state }

/-- A worker looks whether the run is called off. -/
def look (p : Pool ε α) (worker : Nat) : Pool ε α :=
  p.withWorker worker (if p.aborted then .stopped else .ready)

/-- A worker takes the next case, or stops if there is none. -/
def take (p : Pool ε α) (worker : Nat) : Pool ε α :=
  let state := if p.next < p.cases then WorkerState.running p.next else .stopped
  { p.withWorker worker state with next := p.next + 1 }

/-- A worker has the result of its case. -/
def finish (p : Pool ε α) (worker index : Nat) : Except ε α → Pool ε α
  | .ok a => p.withWorker worker (.sending index (.ok a))
  | .error e => p.withWorker worker (.raising index e)

/-- A worker calls the run off. -/
def raise (p : Pool ε α) (worker index : Nat) (error : ε) : Pool ε α :=
  { p.withWorker worker (.sending index (.error error)) with aborted := true }

/-- A worker sends the result of its case. -/
def send (p : Pool ε α) (worker index : Nat) (result : Except ε α) : Pool ε α :=
  { p.withWorker worker .idle with channel := p.channel ++ [(index, result)] }

/-- The receiver takes a result. -/
def accept (p : Pool ε α) (index : Nat) : Except ε α → Pool ε α
  | .ok a => { p with slots := p.slots.set index (some a) }
  | .error e => { p with firstError := p.firstError.or (some e) }

/-- The pool after an event, if the event can happen. -/
def step? (p : Pool ε α) : PoolEvent ε α → Option (Pool ε α)
  | .look w => match p.workers[w]? with
      | some .idle => some (p.look w)
      | _ => none
  | .take w => match p.workers[w]? with
      | some .ready => some (p.take w)
      | _ => none
  | .finish w result => match p.workers[w]? with
      | some (.running index) => some (p.finish w index result)
      | _ => none
  | .raise w => match p.workers[w]? with
      | some (.raising index error) => some (p.raise w index error)
      | _ => none
  | .send w => match p.workers[w]? with
      | some (.sending index result) => some (p.send w index result)
      | _ => none
  | .receive => match p.channel with
      | [] => none
      | (index, result) :: rest => some ({ p with channel := rest }.accept index result)

/-- Whether every worker has stopped and every result is received. -/
def isDone (p : Pool ε α) : Bool :=
  p.channel.isEmpty && p.workers.all fun
    | .stopped => true
    | _ => false

/-- What the run comes to: the first error, or what the slots hold. -/
def outcome [Inhabited α] (p : Pool ε α) : Except ε (List α) :=
  match p.firstError with
  | some e => .error e
  | none => .ok (p.slots.map (·.getD default))

/-- The work of the first worker that has not stopped: a step of its own, or the case
whose result it needs. -/
inductive Duty (ε α : Type) where
  | step (event : PoolEvent ε α)
  | case (worker index : Nat)

/-- What a worker has to do, unless it has stopped. -/
def dutyOf? (worker : Nat) : WorkerState ε α → Option (Duty ε α)
  | .idle => some (.step (.look worker))
  | .ready => some (.step (.take worker))
  | .running index => some (.case worker index)
  | .raising _ _ => some (.step (.raise worker))
  | .sending _ _ => some (.step (.send worker))
  | .stopped => none

/-- A schedule: results are received at once, and the first worker that can goes on. -/
def duty? (p : Pool ε α) : Option (Duty ε α) :=
  if p.channel.isEmpty then
    ((List.range p.workers.length).zip p.workers).findSome? fun (w, state) => dutyOf? w state
  else some (.step .receive)

/-- A number of steps that is enough for any run: six for each case, and two for each
worker to stop. -/
def stepBound (p : Pool ε α) : Nat :=
  6 * p.cases + 2 * p.workers.length

/-- Follows the schedule for a number of steps, with the results of cases from `run`. -/
def drive {σ : Type} (run : Nat → StateM σ (Except ε α)) : Nat → Pool ε α →
    StateM σ (Pool ε α)
  | 0, p => pure p
  | steps + 1, p =>
      match p.duty? with
      | none => pure p
      | some (.step event) => drive run steps ((p.step? event).getD p)
      | some (.case worker index) => do
          let result ← run index
          drive run steps ((p.step? (.finish worker result)).getD p)

/-- The outcome of a run over `cases` cases. -/
def run {σ : Type} [Inhabited α] (wanted cases : Nat) (run : Nat → StateM σ (Except ε α)) :
    StateM σ (Except ε (List α)) := do
  let first : Pool ε α := start wanted cases
  let last ← first.drive run first.stepBound
  return last.outcome

end Pool

end Counterpart
