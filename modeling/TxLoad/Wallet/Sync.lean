import TxLoad.Wallet.Registry

/-!
# Reading all accounts from a node

First the funding account is read, then all workers, several at a time. Of each account the nonce is read, then the
balance; only when both are known does the account change.

- `Sync.Event` is what can happen next, `Sync.step` the state after it;
- `Sync.result?` is how the reading ended: when the funding account cannot be read, nothing else is; every worker is
  read whatever happens to the others, and the first failure counts.
-/

namespace TxLoad

namespace Sync

/-- How far the reading of an account has come. -/
inductive Stage where
  | waiting
  | nonce
  | balance (nonce : Nat)
  | done (result : Except Failure Unit)

/-- Whether the account was read, with whatever result. -/
def Stage.isDone : Stage → Bool
  | done _ => true
  | _ => false

/-- Which account is read. -/
inductive Holder where
  | funding
  | worker (i : Nat)
deriving DecidableEq, Repr

/-- What can happen next. -/
inductive Event where
  | begin (h : Holder)
  | nonce (h : Holder) (answer : Except Failure Nat)
  | balance (h : Holder) (answer : Except Failure Nat)

end Sync

/-- The reading of all accounts from the node `rpc`; `failures` are those of workers, in the order in which they
came. -/
structure Sync where
  rpc : String
  registry : Registry
  funding : Sync.Stage
  workers : Array Sync.Stage
  failures : List Failure
  log : Array Log.Entry

namespace Sync

/-- Nothing was read yet. -/
def start (rpc : String) (registry : Registry) : Sync :=
  ⟨rpc, registry, .waiting, Array.replicate registry.workers.size .waiting, [], #[]⟩

/-- The stage of an account. -/
def stage? (s : Sync) : Holder → Option Stage
  | .funding => some s.funding
  | .worker i => s.workers[i]?

/-- An account comes to a stage. -/
def reach (s : Sync) (h : Holder) (stage : Stage) : Sync :=
  match h with
  | .funding => { s with funding := stage }
  | .worker i => { s with workers := s.workers.setIfInBounds i stage }

/-- Whether the funding account was read with success. -/
def fundingRead (s : Sync) : Bool :=
  match s.funding with
  | .done (.ok ()) => true
  | _ => false

/-- An account cannot be read. -/
def fail (s : Sync) (h : Holder) (e : Failure) : Sync :=
  let s := s.reach h (.done (.error e))
  match h with
  | .funding => s
  | .worker _ => { s with failures := s.failures ++ [e] }

/-- The account of a holder. -/
def account? (s : Sync) : Holder → Option Account
  | .funding => some s.registry.funding
  | .worker i => s.registry.workers[i]?

/-- The registry with the account of a holder changed. -/
def modify (s : Sync) (h : Holder) (f : Account → Account) : Sync :=
  match h with
  | .funding => { s with registry := s.registry.modifyFunding f }
  | .worker i => { s with registry := s.registry.modifyWorker i f }

/-- Nonce and balance of an account are known. -/
def set (s : Sync) (h : Holder) (nonce balance : Nat) : Sync :=
  let s := (s.modify h (·.withState nonce balance)).reach h (.done (.ok ()))
  match s.account? h with
  | some a => { s with log := s.log.push (a.syncedLog s.rpc) }
  | none => s

/-- The state after an event; an event that cannot happen now changes nothing. -/
def step (s : Sync) : Event → Sync
  | .begin h =>
    match s.stage? h with
    | some .waiting => if h = .funding ∨ s.fundingRead then s.reach h .nonce else s
    | _ => s
  | .nonce h answer =>
    match s.stage? h, answer with
    | some .nonce, .ok n => s.reach h (.balance n)
    | some .nonce, .error e => s.fail h e
    | _, _ => s
  | .balance h answer =>
    match s.stage? h, answer with
    | some (.balance n), .ok b => s.set h n b
    | some (.balance _), .error e => s.fail h e
    | _, _ => s

/-- The state after a sequence of events. -/
def after (s : Sync) (events : List Event) : Sync := events.foldl step s

/-- How the reading ended. -/
def result? (s : Sync) : Option (Except Failure Unit) :=
  match s.funding with
  | .done (.error e) => some (.error e)
  | .done (.ok ()) =>
    if s.workers.all Stage.isDone then
      match s.failures with
      | e :: _ => some (.error e)
      | [] => some (.ok ())
    else none
  | _ => none

/-- What is said at the end. -/
def endLog (s : Sync) : List Log.Entry :=
  match s.result? with
  | some (.ok ()) =>
    [⟨"wallet", .info, "Accounts synced", [
      ("funding", .text s.registry.funding.address.checksummed),
      ("funding_balance", .number s.registry.funding.balance),
      ("workers", .number s.registry.workers.size)]⟩]
  | some (.error _) =>
    if s.failures.isEmpty then []
    else [⟨"wallet", .warn, "Worker sync incomplete", [("failed", .number s.failures.length)]⟩]
  | none => []

end Sync

end TxLoad
