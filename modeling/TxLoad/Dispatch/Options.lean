import TxLoad.Amount
import TxLoad.Selection

/-!
# Options of a run

- `Options` says when a run stops, how fast it may go, how much may be pending, and how endpoints and workers are
  picked; times are in milliseconds and zero means no limit;
- `Options.validate` refuses a run that would neither stop nor be paced;
- `ahead` is the pacing rule: as many dispatches per slot as the throughput allows, the current slot included.
-/

namespace TxLoad.Dispatch

/-- Options of a run; zero means no limit. -/
structure Options where
  count : Nat
  throughput : Nat
  slot : Nat
  maxPending : Nat
  timeout : Option Nat
  endpointSelection : Selection
  walletSelection : Selection
  maxFailures : Nat
deriving DecidableEq, Repr

namespace Options

/-- Slots of twelve seconds, two minutes for a confirmation, a hundred failures in a row. -/
def standard : Options := ⟨0, 0, 12000, 0, some 120000, .byIndex, .byIndex, 100⟩

/-- A run needs a count or a throughput, and a throughput needs slots that last. -/
def validate (o : Options) : Except Failure Unit :=
  if o.count = 0 ∧ o.throughput = 0 then .error (.config .noStopCondition)
  else if 0 < o.throughput ∧ o.slot = 0 then .error (.config .zeroSlot)
  else .ok ()

/-- How long a confirmation may take; zero is no limit. -/
def patience (o : Options) : Option Nat := o.timeout.filter (0 < ·)

end Options

/-! ## Pacing -/

/-- How often the admission loop looks whether it may go on, in milliseconds. -/
def pollInterval : Nat := 100

/-- The slots that have begun after `elapsed` milliseconds, up to the greatest 64-bit word. -/
def slotsBegun (elapsed slot : Nat) : Nat := min (min (elapsed / max slot 1) word64Max + 1) word64Max

/-- Whether `accounted` dispatches are all that the throughput allows so far. -/
def ahead (accounted elapsed slot throughput : Nat) : Bool :=
  0 < throughput && throughput ≤ accounted / slotsBegun elapsed slot

end TxLoad.Dispatch
