import TxLoad.Dispatch.Path
import TxLoad.Dispatch.Tracking
import TxLoad.Pool
import TxLoad.Scenario
import TxLoad.Wallet.Registry

/-!
# The state of a run

- `Setup` is what a run is given and never changes;
- `Stage` is how far one dispatch has come, from its admission to the verdict on its transaction, or to where its watch
  broke off;
- `Main` is where the admission loop stands;
- `Run` is all that changes. Every dispatch ever admitted has one stage, at the position of its index.
-/

namespace TxLoad.Dispatch

/-- The random numbers at the hand of one dispatch. -/
structure RandomDraws where
  endpoint : Nat
  wallet : Nat
  value : Nat
deriving DecidableEq, Repr, Inhabited

/-- What a run is given. -/
structure Setup where
  options : Options
  scenario : Scenario
  overrides : Fee.Overrides
  path : Path
  endpoints : List String
  draws : Nat → RandomDraws

/-- The name of an endpoint. -/
def Setup.endpointName (s : Setup) (i : Nat) : String := s.endpoints.getD i ""

/-- How far a dispatch has come. -/
inductive Stage where
  | admitted
  | quoting (endpoint worker : Nat)
  | sending (endpoint worker : Nat) (transaction : SignedTransaction)
  | submitted (p : Pending)
  | watching (p : Pending)
  | failed (e : Failure)
  | closed (p : Pending) (v : Verdict)
  | broken (p : Pending)
deriving DecidableEq

namespace Stage

/-- The dispatch is neither failed nor submitted yet. -/
def isDispatching : Stage → Bool
  | admitted | quoting _ _ | sending _ _ _ => true
  | _ => false

/-- The dispatch is submitted and waits for its verdict. -/
def isTracking : Stage → Bool
  | submitted _ | watching _ => true
  | _ => false

/-- The dispatch can go on at once. -/
def isReady : Stage → Bool
  | admitted | submitted _ => true
  | _ => false

/-- The deadline of a watched transaction. -/
def deadline (patience : Option Nat) : Stage → Option Nat
  | watching p => p.deadline patience
  | _ => none

end Stage

/-- Where the admission loop stands. -/
inductive Main where
  | acquiring
  | waiting
  | pacing (till : Nat)
  | joining
  | confirming
  | returned (result : Except Failure Summary)

/-- All that changes in a run. -/
structure Run where
  now : Nat
  main : Main
  context : Context
  jobs : Array Stage
  pool : Pool
  registry : Registry
  submissions : Array (Path × SignedTransaction)
  log : Array Log.Entry

namespace Run

/-- Says something. -/
def say (r : Run) (e : Log.Entry) : Run := { r with log := r.log.push e }

/-- Says several things. -/
def sayAll (r : Run) (es : List Log.Entry) : Run := { r with log := r.log ++ es }

/-- Raises a fatal failure and says so. -/
def raise (r : Run) (e : Failure) : Run :=
  { r.say (r.context.fatal.raiseLog e) with context := r.context.raise e }

/-- A dispatch comes to a stage. -/
def reach (r : Run) (i : Nat) (s : Stage) : Run := { r with jobs := r.jobs.setIfInBounds i s }

/-- Whether some dispatch is neither failed nor submitted yet. -/
def anyDispatching (r : Run) : Bool := r.jobs.any Stage.isDispatching

/-- Whether some transaction waits for its verdict. -/
def anyTracking (r : Run) : Bool := r.jobs.any Stage.isTracking

/-- Whether the throughput is used up for now. -/
def isAhead (s : Setup) (r : Run) : Bool :=
  ahead r.context.counters.accounted (r.context.elapsed r.now) s.options.slot s.options.throughput

/-- Whether the count is reached. -/
def isComplete (s : Setup) (r : Run) : Bool :=
  0 < s.options.count && s.options.count ≤ r.context.counters.accounted

/-! ## The start -/

/-- What is said at the start. -/
def startLog (s : Setup) (wallets : Nat) : Log.Entry :=
  ⟨"dispatch", .info, "Starting scenario", [
    ("scenario", .text s.scenario.name),
    ("path", .text s.path.label),
    ("count", .number s.options.count),
    ("throughput", .number s.options.throughput),
    ("max_pending", .number s.options.maxPending),
    ("endpoints", .number s.endpoints.length),
    ("wallets", .number wallets)]⟩

/-- The run before its first step. -/
def start (s : Setup) (pool : Pool) (registry : Registry) (now : Nat) : Run where
  now := now
  main := .acquiring
  context := .new s.options.maxPending now
  jobs := #[]
  pool := pool
  registry := registry
  submissions := #[]
  log := #[startLog s registry.workers.size]

/-- Starts a run, unless its options are not valid. -/
def launch (s : Setup) (pool : Pool) (registry : Registry) (now : Nat) : Except Failure Run :=
  s.options.validate.map fun () => start s pool registry now

end Run

end TxLoad.Dispatch
