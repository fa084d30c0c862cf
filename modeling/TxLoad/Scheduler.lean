/-!
# Schedulers of virtual time

A simulation runs on a clock that moves only when nothing is left to do. A `Scheduler` holds what is ready, first in
first out, and what waits for its time, in the order in which it was put off.

- `Scheduler.next?` takes what is ready, `Scheduler.nextDue` is the time of what waits the least;
- `Scheduler.advance` moves the clock; what is due then becomes ready in the order in which it was put off
  (`ready_advance`), and nothing is lost (`length_advance`).
-/

namespace TxLoad

/-- What is to be done, and when. -/
structure Scheduler (ε : Type) where
  now : Nat
  ready : List ε
  waiting : List (Nat × ε)

namespace Scheduler

variable {ε : Type}

/-- Nothing to do. -/
def idle (now : Nat) : Scheduler ε := ⟨now, [], []⟩

/-- Puts something behind all that is ready. -/
def enqueue (a : Scheduler ε) (e : ε) : Scheduler ε := { a with ready := a.ready ++ [e] }

/-- Puts something off to a later time. -/
def putOff (a : Scheduler ε) (due : Nat) (e : ε) : Scheduler ε := { a with waiting := a.waiting ++ [(due, e)] }

/-- What has been ready the longest, and the rest. -/
def next? (a : Scheduler ε) : Option (ε × Scheduler ε) :=
  match a.ready with
  | [] => none
  | e :: ready => some (e, { a with ready := ready })

/-- The time of what waits the least. -/
def nextDue (a : Scheduler ε) : Option Nat := (a.waiting.map (·.1)).min?

/-- Moves the clock; what is due becomes ready. -/
def advance (a : Scheduler ε) (time : Nat) : Scheduler ε where
  now := time
  ready := a.ready ++ (a.waiting.filter (·.1 ≤ time)).map (·.2)
  waiting := a.waiting.filter fun w => !decide (w.1 ≤ time)

theorem ready_advance (a : Scheduler ε) (time : Nat) :
    (a.advance time).ready = a.ready ++ (a.waiting.filter (·.1 ≤ time)).map (·.2) := rfl

theorem lt_of_mem_waiting_advance {a : Scheduler ε} {time : Nat} {w : Nat × ε} (h : w ∈ (a.advance time).waiting) :
    time < w.1 := by
  simpa [advance] using (List.mem_filter.mp h).2

theorem length_advance (a : Scheduler ε) (time : Nat) :
    (a.advance time).ready.length + (a.advance time).waiting.length = a.ready.length + a.waiting.length := by
  have h := (List.filter_append_perm (fun w : Nat × ε => decide (w.1 ≤ time)) a.waiting).length_eq
  simp only [List.length_append] at h
  simp only [advance, List.length_append, List.length_map]
  omega

end Scheduler

end TxLoad
