import TxLoad.Dispatch.Options
import TxLoad.Log.Entry

/-!
# What a run counts

- `Counters`: the next index, and how many dispatches are submitted or in flight;
- `Gate`: the slots for dispatches that are not settled; a slot that comes free is handed to the admission loop when
  that waits for one;
- `Fatal`: the first fatal failure, and how often one was raised;
- `Stats`: outcomes, the failures in a row, and the fees paid;
- `Context` is all of them with the time at which the run started, and `Context.summary` its account of the run.
-/

namespace TxLoad.Dispatch

/-- The next index, and how many dispatches are submitted or in flight. -/
structure Counters where
  nextIndex : Nat
  submitted : Nat
  inFlight : Nat
deriving DecidableEq, Repr

namespace Counters

/-- The dispatches that the stop condition and the pacing look at. -/
def accounted (c : Counters) : Nat := c.submitted + c.inFlight

/-- A dispatch begins: it takes the next index and is in flight. -/
def begin (c : Counters) : Counters := { c with nextIndex := c.nextIndex + 1, inFlight := c.inFlight + 1 }

/-- A dispatch is over, with or without a submission. -/
def finish (c : Counters) (submitted : Bool) : Counters :=
  { c with inFlight := c.inFlight - 1, submitted := c.submitted + submitted.toNat }

end Counters

/-! ## The gate -/

/-- Slots for dispatches that are not settled; a gate without capacity lets everything through. -/
structure Gate where
  capacity : Nat
  free : Nat
  waiting : Bool
  handed : Bool
deriving DecidableEq, Repr

namespace Gate

/-- The greatest number of slots. -/
def maxCapacity : Nat := 0x1fffffffffffffff

/-- A gate for at most `maxPending` dispatches; zero is no limit. -/
def ofLimit (maxPending : Nat) : Gate :=
  let capacity := min maxPending maxCapacity
  ⟨capacity, capacity, false, false⟩

/-- Whether the gate limits anything. -/
def bounded (g : Gate) : Bool := 0 < g.capacity

/-- The free slots of a gate that has a limit. -/
def available (g : Gate) : Option Nat := if g.bounded then some g.free else none

/-- Takes a free slot. -/
def take? (g : Gate) : Option Gate :=
  if !g.bounded then some g else if 0 < g.free then some { g with free := g.free - 1 } else none

/-- Waits for a slot. -/
def wait (g : Gate) : Gate := { g with waiting := true }

/-- Takes the slot that was handed over. -/
def receive? (g : Gate) : Option Gate := if g.handed then some { g with waiting := false, handed := false } else none

/-- A slot comes free: it is handed to the one who waits, if nothing was handed over yet. -/
def release (g : Gate) : Gate :=
  if !g.bounded then g
  else if g.waiting && !g.handed then { g with handed := true }
  else { g with free := g.free + 1 }

/-- Gives up waiting; a slot that was handed over comes free. -/
def giveUp (g : Gate) : Gate := { g with free := g.free + g.handed.toNat, waiting := false, handed := false }

end Gate

/-! ## Fatal failures -/

/-- The first fatal failure, until it is taken, and how often one was raised. -/
structure Fatal where
  first : Option Failure
  count : Nat
deriving DecidableEq, Repr

namespace Fatal

/-- Nothing was raised yet. -/
def none : Fatal := ⟨Option.none, 0⟩

/-- Whether a failure was raised. -/
def raised (f : Fatal) : Bool := 0 < f.count

/-- Raises a failure; only the first is kept. -/
def raise (f : Fatal) (e : Failure) : Fatal := if f.count = 0 then ⟨some e, 1⟩ else { f with count := f.count + 1 }

/-- What is said when a failure is raised. -/
def raiseLog (f : Fatal) (e : Failure) : Log.Entry :=
  if f.count = 0 then ⟨"dispatch", .error, "Fatal condition, aborting run", [("error", .text e.message)]⟩
  else ⟨"dispatch", .debug, "Fatal condition already raised", [("error", .text e.message)]⟩

/-- Takes the first failure away. -/
def take (f : Fatal) : Fatal := { f with first := Option.none }

end Fatal

/-! ## Outcomes -/

/-- Outcomes of dispatches, the failures in a row, and the fees paid. -/
structure Stats where
  failed : Nat
  confirmed : Nat
  reverted : Nat
  watchErrors : Nat
  timeouts : Nat
  streak : Nat
  feesPaid : Nat
deriving DecidableEq, Repr

namespace Stats

/-- Nothing happened yet. -/
def zero : Stats := ⟨0, 0, 0, 0, 0, 0, 0⟩

/-- A dispatch failed before it was submitted. -/
def fail (s : Stats) : Stats := { s with failed := s.failed + 1, streak := s.streak + 1 }

/-- A transaction was submitted. -/
def submission (s : Stats) : Stats := { s with streak := 0 }

/-- A fee was paid. -/
def pay (s : Stats) (fee : Nat) : Stats := { s with feesPaid := Wei.plus s.feesPaid fee }

/-- A receipt came in. -/
def settle (s : Stats) (success : Bool) : Stats :=
  if success then { s with confirmed := s.confirmed + 1 } else { s with reverted := s.reverted + 1 }

/-- The watch of a transaction was lost. -/
def lose (s : Stats) : Stats := { s with watchErrors := s.watchErrors + 1 }

/-- A confirmation did not come in time. -/
def expire (s : Stats) : Stats := { s with timeouts := s.timeouts + 1 }

end Stats

/-! ## Everything together -/

/-- What a run counts, and when it started. -/
structure Context where
  counters : Counters
  gate : Gate
  fatal : Fatal
  stats : Stats
  started : Nat
deriving DecidableEq, Repr

/-- The account of a run. -/
structure Summary where
  dispatched : Nat
  submitted : Nat
  failed : Nat
  confirmed : Nat
  reverted : Nat
  watchErrors : Nat
  timeouts : Nat
  feesPaid : Nat
  elapsed : Nat
deriving DecidableEq, Repr

namespace Context

/-- A context in which nothing happened, for at most `maxPending` unsettled dispatches. -/
def new (maxPending now : Nat) : Context := ⟨⟨0, 0, 0⟩, .ofLimit maxPending, .none, .zero, now⟩

/-- The milliseconds since the run started. -/
def elapsed (c : Context) (now : Nat) : Nat := now - c.started

/-- A dispatch begins. -/
def begin (c : Context) : Context := { c with counters := c.counters.begin }

/-- A dispatch is over. -/
def finish (c : Context) (submitted : Bool) : Context := { c with counters := c.counters.finish submitted }

/-- A fatal failure is raised. -/
def raise (c : Context) (e : Failure) : Context := { c with fatal := c.fatal.raise e }

/-- A slot comes free. -/
def release (c : Context) : Context := { c with gate := c.gate.release }

/-- The account of the run so far. -/
def summary (c : Context) (now : Nat) : Summary where
  dispatched := c.counters.nextIndex
  submitted := c.counters.submitted
  failed := c.stats.failed
  confirmed := c.stats.confirmed
  reverted := c.stats.reverted
  watchErrors := c.stats.watchErrors
  timeouts := c.stats.timeouts
  feesPaid := c.stats.feesPaid
  elapsed := c.elapsed now

end Context

end TxLoad.Dispatch
