import TxLoad.Scheduler
import TxLoad.Dispatch.Run.Step
import TxLoad.Network.Endpoint

/-!
# Simulating a run

A run is played against scripted endpoints on a clock that moves only when nothing is left to do. Whenever its turn
comes, the admission loop goes on as far as it can; then the dispatches and watches that are ready go on, first in
first out, each until it waits for an answer; then the loop again. When nobody can go on, the clock moves to the next
moment at which somebody can.

- `Simulation.turn` is one such step; each of them is a sequence of events of the run;
- `Simulation.play` takes turns until the run returns or the time is up.
-/

namespace TxLoad.Dispatch

open Network (Net Answer Endpoint)

/-- What a dispatch or a watch can be woken up for. -/
inductive Task where
  | begin (i : Nat)
  | quoted (i endpoint : Nat) (answer : Except Failure (Nat × Nat))
  | sent (i endpoint : Nat) (t : SignedTransaction) (answer : Except Failure Unit)
  | watch (i : Nat)
  | answered (i : Nat) (p : Pending) (answer : Except Failure Confirmation)
  | expired (i : Nat)

/-- A run that is played against scripted endpoints. -/
structure Simulation where
  run : Run
  net : Net
  scheduler : Scheduler Task
  loopsTurn : Bool

namespace Simulation

/-- Applies an event to the run. -/
def event (s : Setup) (h : Simulation) (e : Event) : Simulation := { h with run := h.run.step s e }

/-- The time on the clock. -/
def now (h : Simulation) : Nat := h.scheduler.now

/-! ## Calls -/

/-- The endpoint's answer to a submission comes in. -/
def takeSent (s : Setup) (h : Simulation) (i endpoint : Nat) (t : SignedTransaction) (answer : Except Failure Unit) :
    Simulation :=
  let h : Simulation := { h with net := h.net.finish endpoint h.now (.sent answer.isOk t) }
  let h := h.event s (.sent i answer)
  match h.run.jobs[i]? with
  | some (.submitted _) => { h with scheduler := h.scheduler.enqueue (.watch i) }
  | _ => h

/-- Submits the transaction of a dispatch that has come so far. -/
def submit (s : Setup) (h : Simulation) (i : Nat) : Simulation :=
  match h.run.jobs[i]? with
  | some (.sending endpoint _ t) =>
    let (answer, net) := h.net.ask endpoint (·.submit t)
    let h := { h with net := net }
    match answer.result with
    | none => h
    | some result =>
      if answer.delay = 0 then h.takeSent s i endpoint t result
      else { h with scheduler := h.scheduler.putOff (h.now + answer.delay) (.sent i endpoint t result) }
  | _ => h

/-- The endpoint's answer about fees comes in. -/
def takeQuoted (s : Setup) (h : Simulation) (i endpoint : Nat) (answer : Except Failure (Nat × Nat)) : Simulation :=
  let h : Simulation := { h with net := h.net.finish endpoint h.now .askedFees }
  (h.event s (.quoted i answer)).submit s i

/-- Asks for the fees of a dispatch that needs to know them, or submits its transaction. -/
def quote (s : Setup) (h : Simulation) (i : Nat) : Simulation :=
  match h.run.jobs[i]? with
  | some (.quoting endpoint _) =>
    let (answer, net) := h.net.ask endpoint Endpoint.askFees
    let h := { h with net := net }
    match answer.result with
    | none => h
    | some result =>
      if answer.delay = 0 then h.takeQuoted s i endpoint result
      else { h with scheduler := h.scheduler.putOff (h.now + answer.delay) (.quoted i endpoint result) }
  | _ => h.submit s i

/-- The answer to a watch comes in; the call of a watch that is over was cut off. -/
def takeAnswered (s : Setup) (h : Simulation) (i : Nat) (p : Pending) (answer : Except Failure Confirmation) :
    Simulation :=
  match h.run.jobs[i]? with
  | some (.watching _) =>
    let h := { h with net := h.net.finish p.endpoint h.now (.watched answer.isOk p.transaction) }
    h.event s (.answered i answer)
  | _ => h

/-- Begins to watch a submitted transaction, up to its deadline. -/
def watch (s : Setup) (h : Simulation) (i : Nat) : Simulation :=
  let h := h.event s (.watch i)
  match h.run.jobs[i]? with
  | some (.watching p) =>
    let (answer, net) := h.net.ask p.endpoint (·.watch p.transaction)
    let h := { h with net := net }
    let wait (h : Simulation) : Simulation :=
      match p.deadline s.options.patience with
      | some deadline => { h with scheduler := h.scheduler.putOff deadline (.expired i) }
      | none => h
    match answer.result with
    | none => wait h
    | some result =>
      if answer.delay = 0 then h.takeAnswered s i p result
      else wait { h with scheduler := h.scheduler.putOff (h.now + answer.delay) (.answered i p result) }
  | _ => h

/-! ## Turns -/

/-- Does what a task was woken up for. -/
def perform (s : Setup) (h : Simulation) : Task → Simulation
  | .begin i => (h.event s (.begin i)).quote s i
  | .quoted i endpoint answer => h.takeQuoted s i endpoint answer
  | .sent i endpoint t answer => h.takeSent s i endpoint t answer
  | .watch i => h.watch s i
  | .answered i p answer => h.takeAnswered s i p answer
  | .expired i => h.event s (.expired i)

/-- One step of the admission loop; a dispatch that it admits is ready. -/
def resume (s : Setup) (h : Simulation) : Simulation :=
  let before := h.run.jobs.size
  let h := h.event s .resume
  if before < h.run.jobs.size then { h with scheduler := h.scheduler.enqueue (.begin before) } else h

/-- The next moment at which somebody can go on, but not later than `limit`. -/
def nextMoment (h : Simulation) (limit : Nat) : Nat :=
  let due := min (h.scheduler.nextDue.getD limit) limit
  match h.run.main with
  | .pacing till => min till due
  | _ => due

/-- The clock moves. -/
def pass (s : Setup) (h : Simulation) (time : Nat) : Simulation :=
  { h.event s (.pass time) with scheduler := h.scheduler.advance time, loopsTurn := true }

/-- One step, unless the simulation is over at `limit`. -/
def turn (s : Setup) (limit : Nat) (h : Simulation) : Option Simulation :=
  if h.run.result?.isSome then none
  else if h.loopsTurn then
    if h.run.mainReady then some (h.resume s)
    else if limit ≤ h.now then none
    else some { h with loopsTurn := false }
  else match h.scheduler.next? with
    | some (task, scheduler) => some ({ h with scheduler := scheduler }.perform s task)
    | none =>
      if h.run.mainReady then some { h with loopsTurn := true }
      else some (h.pass s (h.nextMoment limit))

/-- Takes at most the given number of turns. -/
def turns (s : Setup) (limit : Nat) : Nat → Simulation → Simulation
  | 0, h => h
  | n + 1, h =>
    match h.turn s limit with
    | some h => turns s limit n h
    | none => h

/-- The turns after which a simulation in which no time passes is given up. -/
def maxTurns : Nat := 2000000

/-- Plays a run that starts now, for at most `limit` milliseconds. -/
def play (s : Setup) (net : Net) (r : Run) (limit : Nat) : Simulation :=
  turns s (r.now + limit) maxTurns ⟨r, net, .idle r.now, true⟩

end Simulation

end TxLoad.Dispatch
