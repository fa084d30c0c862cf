import TxLoad.Dispatch.Context
import TxLoad.Wallet.Account
import TxLoad.Confirmation
import TxLoad.Wait

/-!
# Transactions that wait for their receipt

- `Pending` is a submitted transaction; `Pending.deadline` is until when its receipt counts, and `Pending.isTellable`
  whether the clock can tell the moment that was asked for: where it cannot, the watch breaks off as it begins;
- `Verdict` is how the wait ends: with a receipt, with a failure of the watch, or too late;
- `Pending.close` is everything that a verdict changes: the sender's balance, the counts of the run, its fatal
  failure, the log, and the slot that comes free.
-/

namespace TxLoad.Dispatch

/-- A submitted transaction that waits for its receipt. -/
structure Pending where
  index : Nat
  endpoint : Nat
  worker : Nat
  transaction : SignedTransaction
  submitted : Nat
deriving DecidableEq

/-- How the wait for a receipt ends. -/
inductive Verdict where
  | settled (c : Confirmation)
  | lost (e : Failure)
  | expired
deriving DecidableEq

/-- The verdict of an answer. -/
def Verdict.ofAnswer : Except Failure Confirmation → Verdict
  | .ok c => settled c
  | .error e => lost e

namespace Pending

/-- Until when a receipt counts, for a watch that begins at the submission. -/
def deadline (p : Pending) (patience : Option Nat) : Option Nat := patience.map (Wait.till p.submitted)

/-- Whether the clock can tell the moment up to which a receipt was asked to count. -/
def isTellable (p : Pending) (patience : Option Nat) : Bool :=
  patience.all fun limit => p.submitted + limit < Wait.horizon

/-- What a settled transaction took from its sender. -/
def spent (p : Pending) (c : Confirmation) : Nat := Wei.plus p.transaction.value c.totalFee

/-- The failure of a receipt that did not come in time; the time is told in whole seconds. -/
def timeout (p : Pending) (patience : Option Nat) : Failure :=
  .confirmationTimeout (p.index + 1) p.transaction.hashText (patience.getD 0 / 1000)

/-- What is said when a receipt comes in; `balance` is what the sender has left. -/
def settledLog (p : Pending) (rpc : String) (c : Confirmation) (now balance : Nat) : Log.Entry :=
  ⟨"tracker", .info, "Tx confirmed", [
    ("rpc", .text rpc),
    ("tx", .number (p.index + 1)),
    ("hash", .text p.transaction.hashText),
    ("block", .number c.block),
    ("status", .text c.status),
    ("gas_used", .number c.gasUsed),
    ("gas_price_gwei", .text (Wei.gwei (c.gasPrice.getD 0))),
    ("exec_fee_gwei", .text (Wei.gweiFixed c.executionFee)),
    ("blob_fee_gwei", .text (Wei.gweiFixed c.blobFee)),
    ("total_fee_gwei", .text (Wei.gweiFixed c.totalFee)),
    ("elapsed_ms", .number (now - p.submitted)),
    ("balance", .number balance)]⟩

/-- What is said when the watch fails. -/
def lostLog (p : Pending) (rpc : String) (e : Failure) : Log.Entry :=
  ⟨"tracker", .warn, "Error while awaiting tx receipt", [
    ("rpc", .text rpc),
    ("tx", .number (p.index + 1)),
    ("hash", .text p.transaction.hashText),
    ("error", .text e.message)]⟩

/-- The sender after a verdict: only a receipt costs something. -/
def charge (p : Pending) (v : Verdict) (sender : Account) : Account :=
  match v with
  | .settled c => sender.debit (p.spent c)
  | .lost _ | .expired => sender

/-- The counts of the run after a verdict; the slot comes free in any case. -/
def count (p : Pending) (v : Verdict) (patience : Option Nat) (context : Context) : Context :=
  let context :=
    match v with
    | .settled c => { context with stats := (context.stats.pay c.totalFee).settle c.success }
    | .lost _ => { context with stats := context.stats.lose }
    | .expired => { context with stats := context.stats.expire }.raise (p.timeout patience)
  context.release

/-- What is said about a verdict; `balance` is what the sender has left. -/
def verdictLog (p : Pending) (v : Verdict) (patience : Option Nat) (rpc : String) (now balance : Nat)
    (context : Context) : Log.Entry :=
  match v with
  | .settled c => p.settledLog rpc c now balance
  | .lost e => p.lostLog rpc e
  | .expired => context.fatal.raiseLog (p.timeout patience)

end Pending

/-! ## Waiting for a known answer -/

/-- What is left of the patience for a wait that begins at `start`. -/
def Pending.left (p : Pending) (patience : Option Nat) (start : Nat) : Option Nat :=
  patience.map (p.submitted + · - start)

/-- When and how the wait for an answer ends that begins at `start`, if it ends: an answer counts up to the end of what
is left of the patience, that end included, so that an answer which is there at once counts in any case. -/
def Pending.wait (p : Pending) (patience : Option Nat) (start : Nat)
    (answer : Nat × Option (Except Failure Confirmation)) : Option (Nat × Verdict) :=
  match answer.2, p.left patience start with
  | some result, none => some (start + answer.1, .ofAnswer result)
  | none, none => none
  | some result, some left =>
    if start + answer.1 ≤ Wait.till start left then some (start + answer.1, .ofAnswer result)
    else some (Wait.till start left, .expired)
  | none, some left => some (Wait.till start left, .expired)

end TxLoad.Dispatch
