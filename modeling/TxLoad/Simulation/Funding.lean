import TxLoad.Scheduler
import TxLoad.Funding.Funder
import TxLoad.Simulation.Health
import TxLoad.Scenario
import TxLoad.Schedule

/-!
# Simulating transfers to workers

Transfers are played against scripted endpoints on a clock that moves only when nothing is left to do. What is ready
goes on first in first out, each until it waits for an answer or for the lock. Only so many transfers go on at once;
when one is over, the next of the backlog begins.

- `Simulation.turn` is one such step; each of them is a sequence of events of the funder;
- `Funder.transferAll`, `Funder.topUp` and `Funder.prepare` play whole requests, `Funder.resupply` tops up again and
  again.
-/

namespace TxLoad.Funding

open Network (Net Answer Endpoint)

/-- What a transfer can be woken up for. -/
inductive Task where
  | begin (k : Nat)
  | quoted (k endpoint : Nat) (answer : Except Failure (Nat × Nat))
  | granted (k : Nat)
  | sent (k endpoint : Nat) (t : SignedTransaction) (answer : Except Failure Unit)
  | resynced (k endpoint : Nat) (a : Address) (answer : Except Failure Nat)
  | answered (k endpoint : Nat) (t : SignedTransaction) (answer : Except Failure Confirmation)
  | expired (k : Nat)

/-- Transfers that are played against scripted endpoints: those that were asked for, those of them that have not begun,
and those that are over, in the order in which they ended. -/
structure Simulation where
  funder : Funder
  net : Net
  scheduler : Scheduler Task
  asked : List Nat
  backlog : List Nat
  ended : List Nat

namespace Simulation

/-- The time on the clock. -/
def now (h : Simulation) : Nat := h.scheduler.now

/-- Puts a task behind all that is ready. -/
def enqueue (h : Simulation) (t : Task) : Simulation := { h with scheduler := h.scheduler.enqueue t }

/-- Puts a task off. -/
def putOff (h : Simulation) (delay : Nat) (t : Task) : Simulation :=
  { h with scheduler := h.scheduler.putOff (h.now + delay) t }

/-- Whether transfer `k` is over. -/
def isDone (h : Simulation) (k : Nat) : Bool := (h.funder.result? k).isSome

/-- The transfer that was handed the lock, if the lock was not at its holder in `before`. -/
def handed? (before : Funder) (h : Simulation) : Option Nat :=
  if h.funder.holder = before.holder then none
  else h.funder.holder.filter fun j => match h.funder.stage? j with
    | some (.queued _) => true
    | _ => false

/-- A transfer that is over makes room for the next one of the backlog. -/
def close (h : Simulation) (k : Nat) : Simulation :=
  let h := { h with ended := h.ended ++ [k] }
  match h.backlog with
  | [] => h
  | next :: backlog => { h with backlog := backlog }.enqueue (.begin next)

/-- Applies an event of transfer `k`. A transfer that is handed the lock by it is ready before one that is let in. -/
def event (s : Setup) (h : Simulation) (k : Nat) (e : Event) : Simulation :=
  let before := h.funder
  let wasDone := h.isDone k
  let h := { h with funder := h.funder.step s e }
  let h := match h.handed? before with
    | some j => h.enqueue (.granted j)
    | none => h
  if !wasDone && h.isDone k then h.close k else h

/-! ## Calls -/

/-- The answer to the wait for a receipt comes in; the call of a transfer that is over was cut off. -/
def takeAnswered (s : Setup) (h : Simulation) (k endpoint : Nat) (t : SignedTransaction)
    (answer : Except Failure Confirmation) : Simulation :=
  match h.funder.stage? k with
  | some (.awaiting _ _ _) =>
    { h with net := h.net.finish endpoint h.now (.watched answer.isOk t) }.event s k (.answered k answer)
  | _ => h

/-- Begins to wait for the receipt of a transfer, up to its deadline; without patience only an answer that is there at
once counts. -/
def watch (s : Setup) (h : Simulation) (k : Nat) : Simulation :=
  match h.funder.stage? k with
  | some (.awaiting o t _) =>
    let (answer, net) := h.net.ask o.endpoint (·.watch t)
    let h := { h with net := net }
    let wait (h : Simulation) : Simulation :=
      if s.patience = 0 then h.event s k (.expired k) else h.putOff (Wait.bounded s.patience) (.expired k)
    match answer.result with
    | none => wait h
    | some result =>
      if answer.delay = 0 then h.takeAnswered s k o.endpoint t result
      else wait (h.putOff answer.delay (.answered k o.endpoint t result))
  | _ => h

/-- The nonce of the funding account was read again, or could not be read. -/
def takeResynced (s : Setup) (h : Simulation) (k endpoint : Nat) (a : Address) (answer : Except Failure Nat) :
    Simulation :=
  { h with net := h.net.finish endpoint h.now (.askedNonce a) }.event s k (.resynced k answer)

/-- Reads the nonce again after a refused submission. -/
def resync (s : Setup) (h : Simulation) (k endpoint : Nat) : Simulation :=
  let a := h.funder.registry.funding.address
  let (answer, net) := h.net.ask endpoint (·.askNonce a)
  let h := { h with net := net }
  match answer.result with
  | none => h
  | some result =>
    if answer.delay = 0 then h.takeResynced s k endpoint a result
    else h.putOff answer.delay (.resynced k endpoint a result)

/-- The endpoint's answer to a submission comes in. -/
def takeSent (s : Setup) (h : Simulation) (k endpoint : Nat) (t : SignedTransaction) (answer : Except Failure Unit) :
    Simulation :=
  let h : Simulation := { h with net := h.net.finish endpoint h.now (.sent answer.isOk t) }
  let h := h.event s k (.sent k answer)
  match h.funder.stage? k with
  | some (.resyncing _ _) => h.resync s k endpoint
  | _ => h.watch s k

/-- Submits the transaction of a transfer that has come so far. -/
def submit (s : Setup) (h : Simulation) (k : Nat) : Simulation :=
  match h.funder.stage? k with
  | some (.sending o t) =>
    let (answer, net) := h.net.ask o.endpoint (·.submit t)
    let h := { h with net := net }
    match answer.result with
    | none => h
    | some result =>
      if answer.delay = 0 then h.takeSent s k o.endpoint t result
      else h.putOff answer.delay (.sent k o.endpoint t result)
  | _ => h

/-- The endpoint's answer about fees comes in. -/
def takeQuoted (s : Setup) (h : Simulation) (k endpoint : Nat) (answer : Except Failure (Nat × Nat)) : Simulation :=
  let h : Simulation := { h with net := h.net.finish endpoint h.now .askedFees }
  (h.event s k (.quoted k answer)).submit s k

/-- Asks for the fees of a transfer that needs to know them, or submits its transaction. -/
def quote (s : Setup) (h : Simulation) (k : Nat) : Simulation :=
  match h.funder.stage? k with
  | some (.quoting endpoint) =>
    let (answer, net) := h.net.ask endpoint Endpoint.askFees
    let h := { h with net := net }
    match answer.result with
    | none => h
    | some result =>
      if answer.delay = 0 then h.takeQuoted s k endpoint result
      else h.putOff answer.delay (.quoted k endpoint result)
  | _ => h.submit s k

/-! ## Turns -/

/-- Does what a task was woken up for. -/
def perform (s : Setup) (h : Simulation) : Task → Simulation
  | .begin k => (h.event s k (.begin k)).quote s k
  | .quoted k endpoint answer => h.takeQuoted s k endpoint answer
  | .granted k => (h.event s k (.granted k)).submit s k
  | .sent k endpoint t answer => h.takeSent s k endpoint t answer
  | .resynced k endpoint a answer => h.takeResynced s k endpoint a answer
  | .answered k endpoint t answer => h.takeAnswered s k endpoint t answer
  | .expired k => h.event s k (.expired k)

/-- The clock moves. -/
def pass (s : Setup) (h : Simulation) (time : Nat) : Simulation :=
  { h with funder := h.funder.step s (.pass time), scheduler := h.scheduler.advance time }

/-- Whether all transfers that were asked for are over. -/
def isOver (h : Simulation) : Bool := h.asked.length ≤ h.ended.length

/-- One step before the moment `limit`, if there is one; without a limit, until all transfers are over. -/
def turn (s : Setup) (limit : Option Nat) (h : Simulation) : Option Simulation :=
  if h.isOver then none
  else match h.scheduler.next?, h.scheduler.nextDue, limit with
    | some (task, scheduler), _, _ => some ({ h with scheduler := scheduler }.perform s task)
    | none, some due, none => some (h.pass s due)
    | none, some due, some limit => if due < limit then some (h.pass s due) else none
    | none, none, _ => none

/-- Takes at most the given number of turns. -/
def turns (s : Setup) (limit : Option Nat) : Nat → Simulation → Simulation
  | 0, h => h
  | n + 1, h =>
    match h.turn s limit with
    | some h => turns s limit n h
    | none => h

/-- The turns that are enough for one transfer: it is woken up at most seven times, and the clock moves at most as
often. -/
def turnsPerTransfer : Nat := 14

/-- Plays transfers up to a moment, or to their end. -/
def play (s : Setup) (limit : Option Nat) (h : Simulation) : Simulation :=
  h.turns s limit (turnsPerTransfer * h.asked.length)

/-- Asks for transfers to the given workers, of which `window` go on at once. -/
def ask (s : Setup) (net : Net) (f : Funder) (workers : List Nat) (window : Nat) : Simulation :=
  let asked := List.range' f.transfers.size workers.length
  let f := f.after s (workers.map .request)
  ⟨f, net, ⟨f.now, (asked.take window).map .begin, []⟩, asked, asked.drop window, []⟩

/-- The results of the transfers that are over, in the order in which they ended. -/
def results (h : Simulation) : List (Except Failure Confirmation) := h.ended.filterMap h.funder.result?

end Simulation

namespace Funder

/-- The transfers of a top-up that go on at once. -/
def topUpWindow : Nat := 16

/-- Tops up every worker below the minimum: how many were funded, or the first failure. -/
def topUp (s : Setup) (net : Net) (f : Funder) : Except Failure Nat × Funder × Net :=
  let needy := if s.plan.disabled then [] else f.needy s
  let f := f.sayAll (topUpLog s needy)
  if needy.isEmpty then (.ok 0, f, net)
  else
    let h := (Simulation.ask s net f needy topUpWindow).play s none
    (topUpResult h.results, h.funder.sayAll (topUpEndLog h.results), h.net)

/-- What came of transfers to several workers that were asked for together. -/
structure Batch where
  peeked : Nat
  results : List (Option (Except Failure Confirmation))
  funder : Funder
  net : Net

/-- Asks for a transfer to each of the given workers, looks after `peek` milliseconds how much is committed, and waits
for all of them. -/
def transferAll (s : Setup) (net : Net) (f : Funder) (workers : List Nat) (peek : Nat) : Batch :=
  let h := Simulation.ask s net f workers workers.length
  let moment := f.now + peek
  let h := if peek = 0 then h else h.play s (some moment)
  let peeked := h.funder.committed
  let h := h.play s none
  ⟨peeked, h.asked.map h.funder.result?, h.funder.step s (.pass moment), h.net⟩

/-! ## Preparing a run -/

/-- What is said when a scenario needs no funding. -/
def selfFundedLog (scenario : Scenario) : Log.Entry :=
  ⟨"funding", .info, "Scenario funds its own accounts", [("scenario", .text scenario.name)]⟩

/-- What is said after the first top-up. -/
def preparedLog (funded : Nat) : Log.Entry :=
  ⟨"funding", .info, "Initial prefund done", [("funded", .number funded)]⟩

/-- Funds the workers for a scenario: what the funder that keeps them topped up is given, or nothing if the scenario
needs no funding. The scenario may have a plan of its own instead of the configured one. -/
def prepare (s : Setup) (configured : Plan) (scenario : Scenario) (net : Net) (f : Funder) :
    Except Failure (Option Setup) × Funder × Net :=
  if !scenario.needsFunding then (.ok none, f.say (selfFundedLog scenario), net)
  else
    let s := { s with plan := scenario.fundingPlan configured, patience := standardPatience }
    match f.topUp s net with
    | (.ok funded, f, net) => (.ok (some s), f.say (preparedLog funded), net)
    | (.error e, f, net) => (.error e, f, net)

/-! ## Topping up again and again -/

/-- One cycle of topping up. -/
def resupplyCycle (s : Setup) (state : Funder × Net) (time : Nat) : Schedule.Cycle × (Funder × Net) :=
  let (f, net) := state
  let (result, f, net) := { f.step s (.pass time) with log := #[] }.topUp s net
  (⟨time, f.now, result.map fun _ => (), f.log.toList⟩, ({ f with log := #[] }, net))

/-- The name under which topping up is logged. -/
def resupplyTask : String := "resupply"

/-- Tops up on a schedule for the given time. -/
def resupply (s : Setup) (schedule : Schedule) (duration : Nat) (net : Net) (f : Funder) : Funder × Net :=
  let (cycles, finish, g, net) := schedule.play (resupplyCycle s) f.now (f.now + Wait.bounded duration) (f, net)
  (({ g with log := f.log }.sayAll (schedule.playLog resupplyTask cycles)).step s (.pass finish), net)

end Funder

end TxLoad.Funding
