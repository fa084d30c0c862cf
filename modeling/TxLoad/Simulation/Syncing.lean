import TxLoad.Scheduler
import TxLoad.Network.Endpoint
import TxLoad.Wallet.Sync

/-!
# Simulating the reading of all accounts

The reading is played against a scripted endpoint. When the funding account is read, the workers follow, so many at
once; when one of them is read, the next one begins. `Sync.play` takes turns until everything is read.
-/

namespace TxLoad.Sync

open Network (Net Answer)

/-- What a reading can be woken up for. -/
inductive Task where
  | begin (h : Holder)
  | nonce (h : Holder) (answer : Except Failure Nat)
  | balance (h : Holder) (answer : Except Failure Nat)

/-- A reading that is played against the endpoint at a position; the workers of the backlog have not begun. -/
structure Simulation where
  sync : Sync
  net : Net
  endpoint : Nat
  scheduler : Scheduler Task
  backlog : List Nat

namespace Simulation

/-- The accounts that are read at once. -/
def window : Nat := 16

/-- The time on the clock. -/
def now (h : Simulation) : Nat := h.scheduler.now

/-- Applies an event. -/
def event (h : Simulation) (e : Event) : Simulation := { h with sync := h.sync.step e }

/-- Whether the account of a holder was read, with whatever result. -/
def isDone (h : Simulation) (holder : Holder) : Bool :=
  match h.sync.stage? holder with
  | some stage => stage.isDone
  | none => false

/-- Lets the next workers of the backlog begin. -/
def startNext (h : Simulation) (count : Nat) : Simulation :=
  { h with
    scheduler := (h.backlog.take count).foldl (fun a i => a.enqueue (.begin (.worker i))) h.scheduler
    backlog := h.backlog.drop count }

/-- An account that was read makes room: the funding account for as many workers as are read at once, a worker for one
more. -/
def close (h : Simulation) (holder : Holder) : Simulation :=
  if h.isDone holder then h.startNext (if holder = .funding then window else 1) else h

/-- The address of a holder's account. -/
def address (h : Simulation) (holder : Holder) : Address := ((h.sync.account? holder).map (·.address)).getD .zero

/-- An answer that is there at once is taken; for a later one a task is put off, and one that never comes is lost. -/
def await (h : Simulation) (answer : Answer Nat) (task : Except Failure Nat → Task)
    (take : Simulation → Except Failure Nat → Simulation) : Simulation :=
  match answer.result with
  | none => h
  | some result =>
    if answer.delay = 0 then take h result
    else { h with scheduler := h.scheduler.putOff (h.now + answer.delay) (task result) }

/-- The answer about a balance comes in. -/
def takeBalance (h : Simulation) (holder : Holder) (answer : Except Failure Nat) : Simulation :=
  let h : Simulation := { h with net := h.net.finish h.endpoint h.now (.askedBalance (h.address holder)) }
  (h.event (.balance holder answer)).close holder

/-- Asks for the balance of an account. -/
def askBalance (h : Simulation) (holder : Holder) : Simulation :=
  let (answer, net) := h.net.ask h.endpoint (·.askBalance (h.address holder))
  await { h with net := net } answer (.balance holder) (·.takeBalance holder)

/-- The answer about a nonce comes in; if it is one, the balance is asked for. -/
def takeNonce (h : Simulation) (holder : Holder) (answer : Except Failure Nat) : Simulation :=
  let h : Simulation := { h with net := h.net.finish h.endpoint h.now (.askedNonce (h.address holder)) }
  let h := h.event (.nonce holder answer)
  if h.isDone holder then h.close holder else h.askBalance holder

/-- Asks for the nonce of an account. -/
def askNonce (h : Simulation) (holder : Holder) : Simulation :=
  let (answer, net) := h.net.ask h.endpoint (·.askNonce (h.address holder))
  await { h with net := net } answer (.nonce holder) (·.takeNonce holder)

/-- Begins to read an account. -/
def begin (h : Simulation) (holder : Holder) : Simulation := (h.event (.begin holder)).askNonce holder

/-- Does what a task was woken up for. -/
def perform (h : Simulation) : Task → Simulation
  | .begin holder => h.begin holder
  | .nonce holder answer => h.takeNonce holder answer
  | .balance holder answer => h.takeBalance holder answer

/-- One step, unless everything is read. -/
def turn (h : Simulation) : Option Simulation :=
  if h.sync.result?.isSome then none
  else match h.scheduler.next?, h.scheduler.nextDue with
    | some (task, scheduler), _ => some ({ h with scheduler := scheduler }.perform task)
    | none, some due => some { h with scheduler := h.scheduler.advance due }
    | none, none => none

/-- Takes at most the given number of turns. -/
def turns : Nat → Simulation → Simulation
  | 0, h => h
  | n + 1, h =>
    match h.turn with
    | some h => turns n h
    | none => h

/-- The turns that are enough for one account: it is woken up at most three times, and the clock moves at most as
often. -/
def turnsPerAccount : Nat := 6

end Simulation

/-- Plays a reading from the time `now` on. -/
def play (s : Sync) (net : Net) (endpoint now : Nat) : Simulation :=
  let workers := List.range s.registry.workers.size
  Simulation.turns (Simulation.turnsPerAccount * (workers.length + 1))
    ⟨s, net, endpoint, (Scheduler.idle now).enqueue (.begin .funding), workers⟩

end TxLoad.Sync
