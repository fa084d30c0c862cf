import TxLoad.Dispatch.Run.Admission
import TxLoad.Dispatch.Run.Sending

/-!
# Runs as sequences of events

- `Event` is what can happen next: a step of the admission loop, of a dispatch or of a watch, a health check that ends
  meanwhile, or that time passes;
- `Run.step` is the run after an event; an event that cannot happen now changes nothing;
- `Run.after` is the run after a sequence of events, in whatever order they come.

Time passes only when nothing can go on without it, and never beyond the next moment at which something can.
-/

namespace TxLoad.Dispatch

/-- What can happen next. -/
inductive Event where
  | resume
  | begin (i : Nat)
  | quoted (i : Nat) (answer : Except Failure (Nat × Nat))
  | sent (i : Nat) (answer : Except Failure Unit)
  | watch (i : Nat)
  | answered (i : Nat) (answer : Except Failure Confirmation)
  | expired (i : Nat)
  | refreshed (checks : List Pool.Checkup)
  | pass (time : Nat)

namespace Run

/-! ## Verdicts -/

/-- The watch of a submitted transaction begins. Where the clock cannot tell its deadline it breaks off at once, and
nothing but its slot is accounted for. -/
def watch (s : Setup) (r : Run) (i : Nat) : Run :=
  match r.jobs[i]? with
  | some (.submitted p) =>
    if p.isTellable s.options.patience then r.reach i (.watching p)
    else { r.reach i (.broken p) with context := r.context.release }
  | _ => r

/-- Ends the watch of a transaction. -/
def close (s : Setup) (r : Run) (i : Nat) (p : Pending) (v : Verdict) : Run :=
  let registry := r.registry.modifyWorker p.worker (p.charge v)
  let balance := (registry.workers[p.worker]?.map (·.balance)).getD 0
  let entry := p.verdictLog v s.options.patience (s.endpointName p.endpoint) r.now balance r.context
  { (r.say entry).reach i (.closed p v) with
    registry := registry
    context := p.count v s.options.patience r.context }

/-- Whether an answer at the time `now` still counts. -/
def isTimely (s : Setup) (r : Run) (p : Pending) : Bool :=
  match p.deadline s.options.patience with
  | some deadline => r.now ≤ deadline
  | none => true

/-- The watch was answered. -/
def answered (s : Setup) (r : Run) (i : Nat) (answer : Except Failure Confirmation) : Run :=
  match r.jobs[i]? with
  | some (.watching p) => if r.isTimely s p then r.close s i p (.ofAnswer answer) else r
  | _ => r

/-- The deadline of a watched transaction has come. -/
def expired (s : Setup) (r : Run) (i : Nat) : Run :=
  match r.jobs[i]? with
  | some (.watching p) =>
    match p.deadline s.options.patience with
    | some deadline => if deadline ≤ r.now then r.close s i p .expired else r
    | none => r
  | _ => r

/-! ## Time -/

/-- The moments at which something can go on by itself. -/
def alarms (s : Setup) (r : Run) : List Nat :=
  let poll := match r.main with
    | .pacing till => [till]
    | _ => []
  poll ++ r.jobs.toList.filterMap (Stage.deadline s.options.patience)

/-- Whether something can go on without time passing. -/
def isBusy (r : Run) : Bool := r.mainReady || r.jobs.any Stage.isReady

/-- Whether time can pass up to a moment. -/
def canPass (s : Setup) (r : Run) (time : Nat) : Bool :=
  r.now ≤ time && !r.isBusy && (r.alarms s).all (time ≤ ·)

/-! ## Events -/

/-- The run after an event. -/
def step (s : Setup) (r : Run) : Event → Run
  | .resume => r.resume s
  | .begin i => r.begin s i
  | .quoted i answer => r.quoted s i answer
  | .sent i answer => r.sent s i answer
  | .watch i => r.watch s i
  | .answered i answer => r.answered s i answer
  | .expired i => r.expired s i
  | .refreshed checks => { r with pool := r.pool.refresh checks }
  | .pass time => if r.canPass s time then { r with now := time } else r

/-- The run after a sequence of events. -/
def after (s : Setup) (r : Run) (events : List Event) : Run := events.foldl (step s) r

/-- A run that has returned. -/
def result? (r : Run) : Option (Except Failure Summary) :=
  match r.main with
  | .returned result => some result
  | _ => none

end Run

end TxLoad.Dispatch
