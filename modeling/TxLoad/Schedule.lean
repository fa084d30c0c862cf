import TxLoad.Failure
import TxLoad.Log.Entry
import TxLoad.Wait

/-!
# Work that is done again and again

- `Schedule` says how long to wait after a good cycle and after a bad one;
- `Schedule.play` runs cycles until it is told to stop; a cycle that has begun is finished first, and no cycle begins
  from the moment of the stop on.
-/

namespace TxLoad

/-- The waits after a good cycle and after a bad one, in nanoseconds. -/
structure Schedule where
  every : Nat
  retry : Nat
deriving DecidableEq, Repr

namespace Schedule

/-- How often the health of endpoints is checked: every two minutes, or ten seconds after a failure. -/
def health : Schedule := ⟨120 * Wait.second, 10 * Wait.second⟩

/-- How often workers are topped up: every ten minutes, or one minute after a failure. -/
def resupply : Schedule := ⟨600 * Wait.second, 60 * Wait.second⟩

/-- How long the wait after a cycle lasts. -/
def wait (s : Schedule) : Except Failure Unit → Nat
  | .ok () => Wait.span s.every
  | .error _ => Wait.span s.retry

/-- What is said after a failed cycle. -/
def failedLog (s : Schedule) (task : String) (e : Failure) : Log.Entry :=
  ⟨"maintenance", .warn, "Cycle failed", [
    ("task", .text task),
    ("error", .text e.message),
    ("retry_in_secs", .number (s.retry / Wait.second))]⟩

/-- What is said at the end. -/
def stoppedLog (task : String) : Log.Entry := ⟨"maintenance", .debug, "Shutdown requested", [("task", .text task)]⟩

/-- A cycle that was run: when it began and ended, how, and what was said meanwhile. -/
structure Cycle where
  start : Nat
  finish : Nat
  result : Except Failure Unit
  said : List Log.Entry

/-- What is said in and after a cycle. -/
def Cycle.log (c : Cycle) (s : Schedule) (task : String) : List Log.Entry :=
  match c.result with
  | .ok () => c.said
  | .error e => c.said ++ [s.failedLog task e]

/-- Runs at most `fuel` cycles until `stop`; at `time` the wait `delay` begins. `cycle` runs one from a state and a
time. -/
def run {σ : Type} (s : Schedule) (stop : Nat) (cycle : σ → Nat → Cycle × σ) :
    Nat → Nat → Nat → σ → List Cycle × Nat × σ
  | 0, time, _, state => ([], max time stop, state)
  | fuel + 1, time, delay, state =>
    if stop ≤ time + delay then ([], max time stop, state)
    else
      let (c, state) := cycle state (time + delay)
      let (cs, finish, state) := run s stop cycle fuel c.finish (s.wait c.result) state
      (c :: cs, finish, state)

/-- Runs cycles from `time` until `stop`: the cycles, the time at which the last is over, and the state then. -/
def play {σ : Type} (s : Schedule) (cycle : σ → Nat → Cycle × σ) (time stop : Nat) (state : σ) :
    List Cycle × Nat × σ :=
  s.run stop cycle (stop - time + 1) time (s.wait (.ok ())) state

/-- What is said over all cycles, and at the end. -/
def playLog (s : Schedule) (task : String) (cycles : List Cycle) : List Log.Entry :=
  cycles.flatMap (·.log s task) ++ [stoppedLog task]

end Schedule

end TxLoad
