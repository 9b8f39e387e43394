/-
What is left of a process.  Of its output the first bytes up to the limit are kept, in whatever
pieces it is read.  Its ending is what the first look finds that finds one, unless its time is up
before.
-/
import Counterpart.Proofs.Except
import Counterpart.Trial.Bench

namespace Counterpart

namespace Process

/-- All that a process prints. -/
def printed (p : Process) : Bytes :=
  p.pieces.flatten

/-- A process that can be looked at whenever it is tried. -/
def Watched (p : Process) : Prop :=
  ∀ n, ∃ found, p.look n = .ok found

section Output

/-- Pieces are kept as one: behind what is kept already, as far as there is room. -/
theorem foldl_keep (pieces : List Bytes) {kept : Bytes} (hkept : kept.length ≤ captureLimit) :
    pieces.foldl keep kept = (kept ++ pieces.flatten).take captureLimit := by
  induction pieces generalizing kept with
  | nil => rw [List.foldl_nil, List.flatten_nil, List.append_nil, List.take_of_length_le hkept]
  | cons piece pieces ih =>
      have hnext : (keep kept piece).length ≤ captureLimit := by
        rw [keep, List.length_append, List.length_take]
        omega
      have hroom (room : Nat) : room - (piece.take room).length = room - piece.length := by
        rw [List.length_take]
        omega
      rw [List.foldl_cons, ih hnext, List.flatten_cons, keep, List.append_assoc, List.take_append,
        List.take_append, List.take_take, Nat.min_self, hroom, ← List.take_append,
        ← List.take_append]

theorem captured_eq_take (p : Process) : p.captured = p.printed.take captureLimit :=
  foldl_keep p.pieces (Nat.zero_le captureLimit)

end Output

section Waiting

variable {p : Process} {timeout n : Nat}

/-- The look that decides: it finds the status of a process that has ended, or the time is up. -/
inductive Decides (p : Process) (timeout n : Nat) : Ending → Prop
  | ended {status : ExitStatus} (hlook : p.look n = .ok (some status)) :
      Decides p timeout n (.ofStatus status)
  | late (hlook : p.look n = .ok none) (hlate : timeout ≤ p.lookedAt n) :
      Decides p timeout n .timedOut

/-- A look that decides nothing: the process goes on, and there is time left. -/
def Passes (p : Process) (timeout n : Nat) : Prop :=
  p.look n = .ok none ∧ p.lookedAt n < timeout

theorem Decides.await_eq {ending : Ending} (hdecides : p.Decides timeout n ending) :
    p.await timeout n = .ok ending := by
  cases hdecides with
  | ended hlook => rw [await, hlook]
  | late hlook hlate =>
      rw [await, hlook]
      exact if_pos hlate

theorem Decides.supervise_eq {ending : Ending} (hdecides : p.Decides timeout 0 ending) :
    p.supervise timeout = .ok ⟨ending, p.printed.take captureLimit⟩ := by
  rw [supervise, hdecides.await_eq, ← captured_eq_take]
  rfl

theorem Passes.await_eq (hpasses : p.Passes timeout n) :
    p.await timeout n = p.await timeout (n + 1) := by
  rw [await, hpasses.1]
  exact if_neg (Nat.not_le_of_lt hpasses.2)

theorem await_eq_of_passes {k : Nat} (hk : n ≤ k)
    (hpasses : ∀ m, n ≤ m → m < k → p.Passes timeout m) :
    p.await timeout n = p.await timeout k := by
  induction hk with
  | refl => rfl
  | step hk ih =>
      rw [ih fun m hm hlt => hpasses m hm (Nat.lt_succ_of_lt hlt)]
      exact (hpasses _ hk (Nat.lt_succ_self _)).await_eq

/-- Waiting comes to what the first look tells that decides. -/
theorem await_eq_ok_iff {ending : Ending} :
    p.await timeout n = .ok ending ↔
      ∃ k ≥ n, p.Decides timeout k ending ∧ ∀ m, n ≤ m → m < k → p.Passes timeout m := by
  constructor
  · fun_induction p.await timeout n with
    | case1 n reason hlook => exact nofun
    | case2 n status hlook =>
        rintro ⟨⟩
        exact ⟨n, Nat.le_refl n, .ended hlook, fun m hm hlt => absurd hlt (Nat.not_lt_of_le hm)⟩
    | case3 n hlook hlate =>
        rintro ⟨⟩
        exact ⟨n, Nat.le_refl n, .late hlook hlate,
          fun m hm hlt => absurd hlt (Nat.not_lt_of_le hm)⟩
    | case4 n hlook hearly ih =>
        intro hending
        obtain ⟨k, hk, hdecides, hpasses⟩ := ih hending
        refine ⟨k, Nat.le_of_succ_le hk, hdecides, ?_⟩
        intro m hm hlt
        rcases Nat.eq_or_lt_of_le hm with rfl | hm
        · exact ⟨hlook, Nat.lt_of_not_le hearly⟩
        · exact hpasses m hm hlt
  · rintro ⟨k, hk, hdecides, hpasses⟩
    rw [await_eq_of_passes hk hpasses, hdecides.await_eq]

theorem exists_await (hwatched : p.Watched) (timeout n : Nat) :
    ∃ ending, p.await timeout n = .ok ending := by
  fun_induction p.await timeout n with
  | case1 n reason hlook =>
      obtain ⟨found, hfound⟩ := hwatched n
      cases hfound.symm.trans hlook
  | case2 n status hlook => exact ⟨_, rfl⟩
  | case3 n hlook hlate => exact ⟨_, rfl⟩
  | case4 n hlook hearly ih => exact ih

theorem exists_supervise (hwatched : p.Watched) (timeout : Nat) :
    ∃ ending, p.supervise timeout = .ok ⟨ending, p.printed.take captureLimit⟩ := by
  obtain ⟨ending, hending⟩ := exists_await hwatched timeout 0
  exact ⟨ending, by rw [supervise, hending, ← captured_eq_take]; rfl⟩

end Waiting

end Process

end Counterpart
