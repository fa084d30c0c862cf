import TxLoad.Confirmation
import TxLoad.Funding.Plan
import TxLoad.Log.Entry
import TxLoad.Pool
import TxLoad.Wait
import TxLoad.Wallet.Registry

/-!
# Funding the workers

A funder moves value from the funding account to workers. What happens between the check of the balance and the end of
the submission happens for one transfer at a time, in the order in which the transfers come to the check; so a failed
submission can read the nonce again without going back behind a transfer that is out. What a transfer that is out can
cost at most is committed until it is settled.

- `Stage` is how far a transfer has come, `Funder` is all that changes;
- `Funder.step` is the state after an event; an event that cannot happen now changes nothing.
-/

namespace TxLoad.Funding

/-- What a funder is given. -/
structure Setup where
  plan : Plan
  overrides : Fee.Overrides
  patience : Nat
  endpoints : List String

/-- How long the confirmation of a transfer may take when nothing else is said: two minutes. -/
def standardPatience : Nat := 120000

/-- The name of an endpoint. -/
def Setup.endpointName (s : Setup) (i : Nat) : String := s.endpoints.getD i ""

/-- When the wait for a receipt ends that began at `since`; it lasts no longer than any wait. -/
def Setup.deadline (s : Setup) (since : Nat) : Nat := Wait.till since s.patience

/-- What a transfer has settled on: its endpoint, its quote, and the most it can cost. -/
structure Offer where
  endpoint : Nat
  quote : Fee.Quote
  required : Nat
deriving DecidableEq

/-- How far a transfer has come. -/
inductive Stage where
  | requested
  | quoting (endpoint : Nat)
  | queued (o : Offer)
  | sending (o : Offer) (t : SignedTransaction)
  | resyncing (o : Offer) (e : Failure)
  | awaiting (o : Offer) (t : SignedTransaction) (since : Nat)
  | done (result : Except Failure Confirmation)

namespace Stage

/-- The transfer is over. -/
def isDone : Stage → Bool
  | done _ => true
  | _ => false

/-- The transfer is between the check of the balance and the end of its submission. -/
def isSending : Stage → Bool
  | sending _ _ | resyncing _ _ => true
  | _ => false

/-- What the transfer has committed. -/
def commitment : Stage → Nat
  | awaiting o _ _ => o.required
  | _ => 0

end Stage

/-- A transfer to a worker. -/
structure Transfer where
  worker : Nat
  stage : Stage

/-- All that changes. The lock belongs to the transfer `holder`; `queue` are those that wait for it. -/
structure Funder where
  now : Nat
  registry : Registry
  pool : Pool
  committed : Nat
  holder : Option Nat
  queue : List Nat
  transfers : Array Transfer
  log : Array Log.Entry

/-- What can happen next. -/
inductive Event where
  | request (worker : Nat)
  | begin (k : Nat)
  | quoted (k : Nat) (answer : Except Failure (Nat × Nat))
  | granted (k : Nat)
  | sent (k : Nat) (answer : Except Failure Unit)
  | resynced (k : Nat) (answer : Except Failure Nat)
  | answered (k : Nat) (answer : Except Failure Confirmation)
  | expired (k : Nat)
  | pass (time : Nat)

namespace Funder

/-- A funder that has not moved anything yet. -/
def start (registry : Registry) (pool : Pool) (now : Nat) : Funder := ⟨now, registry, pool, 0, none, [], #[], #[]⟩

/-- Says something. -/
def say (f : Funder) (e : Log.Entry) : Funder := { f with log := f.log.push e }

/-- Says several things. -/
def sayAll (f : Funder) (es : List Log.Entry) : Funder := { f with log := f.log ++ es }

/-- The stage of a transfer. -/
def stage? (f : Funder) (k : Nat) : Option Stage := f.transfers[k]?.map (·.stage)

/-- A transfer comes to a stage. -/
def reach (f : Funder) (k : Nat) (s : Stage) : Funder :=
  { f with transfers := f.transfers.modify k fun t => { t with stage := s } }

/-- The address of a worker. -/
def workerAddress (f : Funder) (k : Nat) : Address :=
  ((f.transfers[k]?.bind fun t => f.registry.workers[t.worker]?).map (·.address)).getD .zero

/-- The payload of a transfer. -/
def payload (s : Setup) (f : Funder) (k : Nat) : Payload := .transfer (f.workerAddress k) s.plan.prefund

/-- The lock goes to the one who has waited the longest. -/
def unlock (f : Funder) : Funder := { f with holder := f.queue.head?, queue := f.queue.tail }

/-- Ends a transfer that has the lock. -/
def giveUp (f : Funder) (k : Nat) (e : Failure) : Funder := (f.reach k (.done (.error e))).unlock

/-- What the funding account can still spend. -/
def available (f : Funder) : Nat := Wei.minus f.registry.funding.balance f.committed

/-- The failure of a transfer that the funding account cannot pay. -/
def insufficient (required available : Nat) : Failure := .insufficientFunds (toString required) (toString available)

/-- A transfer that has the lock checks the balance and signs its transaction. -/
def checkFunds (s : Setup) (f : Funder) (k : Nat) (o : Offer) : Funder :=
  if f.available < o.required then f.giveUp k (insufficient o.required f.available)
  else
    let (account, signed) := f.registry.funding.assemble (f.payload s k) o.quote
    let f := { f with registry := f.registry.modifyFunding fun _ => account }
    match signed with
    | .error e => f.giveUp k e
    | .ok t => f.reach k (.sending o t)

/-- A transfer with known fees takes the lock, or waits for it. -/
def enter (s : Setup) (f : Funder) (k endpoint : Nat) (quote : Fee.Quote) : Funder :=
  let quote := quote.clamped
  let f := f.sayAll (quote.warnings (s.endpointName endpoint))
  let o : Offer := ⟨endpoint, quote, (f.payload s k).maxCost quote.feeCap⟩
  match f.holder with
  | none => { f.reach k (.queued o) with holder := some k }.checkFunds s k o
  | some _ => { f.reach k (.queued o) with queue := f.queue ++ [k] }

/-! ## Steps -/

/-- The first step of a transfer: it picks the first good endpoint, and asks for the fees unless they are set by
hand. -/
def begin (s : Setup) (f : Funder) (k : Nat) : Funder :=
  match f.stage? k with
  | some .requested =>
    match f.pool.select .byIndex 0 0 with
    | (.error e, _) => f.reach k (.done (.error e))
    | (.ok endpoint, _) =>
      match s.overrides.quote? with
      | some quote => f.enter s k endpoint quote
      | none => f.reach k (.quoting endpoint)
  | _ => f

/-- The endpoint answered with a fee cap and a tip. -/
def quoted (s : Setup) (f : Funder) (k : Nat) (answer : Except Failure (Nat × Nat)) : Funder :=
  match f.stage? k with
  | some (.quoting endpoint) =>
    match answer with
    | .error e => f.reach k (.done (.error e))
    | .ok (feeCap, tipCap) => f.enter s k endpoint ⟨feeCap, tipCap⟩
  | _ => f

/-- The lock was handed to a waiting transfer. -/
def granted (s : Setup) (f : Funder) (k : Nat) : Funder :=
  match f.stage? k with
  | some (.queued o) => if f.holder = some k then f.checkFunds s k o else f
  | _ => f

/-- The transaction was submitted: what it can cost is committed, and the lock goes on. Or it was refused: then the
nonce is read again first. -/
def sent (f : Funder) (k : Nat) (answer : Except Failure Unit) : Funder :=
  match f.stage? k with
  | some (.sending o t) =>
    match answer with
    | .ok () => { f.reach k (.awaiting o t f.now) with committed := Wei.plus f.committed o.required }.unlock
    | .error e => f.reach k (.resyncing o e)
  | _ => f

/-- What is said when the nonce cannot be read again. -/
def resyncFailedLog (e : Failure) : Log.Entry :=
  ⟨"funding", .warn, "Nonce resync failed", [("error", .text e.message)]⟩

/-- The nonce of the funding account was read again after a refused submission, or could not be read. -/
def resynced (f : Funder) (k : Nat) (answer : Except Failure Nat) : Funder :=
  match f.stage? k with
  | some (.resyncing _ e) =>
    match answer with
    | .ok n =>
      let f := { f with registry := f.registry.modifyFunding fun a => { a with nextNonce := n } }
      (f.say f.registry.funding.resyncedLog).giveUp k e
    | .error e' => (f.say (resyncFailedLog e')).giveUp k e
  | _ => f

/-! ## The end of a transfer -/

/-- A transfer is no longer committed. -/
def release (f : Funder) (o : Offer) : Funder := { f with committed := Wei.minus f.committed o.required }

/-- The failure of a transfer that was not confirmed in time. -/
def unconfirmed (s : Setup) (t : SignedTransaction) : Failure :=
  .transaction t.hashText ("funding tx not confirmed within " ++ toString (s.patience / 1000) ++ "s")

/-- The failure of a transfer that was reverted. -/
def revertedFailure (t : SignedTransaction) : Failure := .transaction t.hashText "funding tx reverted"

/-- What is said when a worker received its value. -/
def fundedLog (worker : Address) (t : SignedTransaction) (c : Confirmation) (balance : Nat) : Log.Entry :=
  ⟨"funding", .info, "Worker funded", [
    ("worker", .text worker.checksummed),
    ("hash", .text t.hashText),
    ("block", .number c.block),
    ("balance", .number balance)]⟩

/-- Takes a receipt into account: a reverted transfer costs its fee, any other one the value too, which the worker
receives. -/
def settle (s : Setup) (f : Funder) (k : Nat) (t : SignedTransaction) (c : Confirmation) : Funder :=
  if c.success then
    let worker := (f.transfers[k]?.map (·.worker)).getD 0
    let registry := f.registry.modifyFunding (·.debit (Wei.plus s.plan.prefund c.totalFee))
    let registry := registry.modifyWorker worker (·.credit s.plan.prefund)
    let balance := (registry.workers[worker]?.map (·.balance)).getD 0
    { (f.say (fundedLog (f.workerAddress k) t c balance)).reach k (.done (.ok c)) with registry := registry }
  else
    { f.reach k (.done (.error (revertedFailure t))) with
      registry := f.registry.modifyFunding (·.debit c.totalFee) }

/-- The wait for the receipt was answered; an answer counts up to the deadline. -/
def answered (s : Setup) (f : Funder) (k : Nat) (answer : Except Failure Confirmation) : Funder :=
  match f.stage? k with
  | some (.awaiting o t since) =>
    if f.now ≤ s.deadline since then
      match answer with
      | .ok c => (f.release o).settle s k t c
      | .error e => (f.release o).reach k (.done (.error e))
    else f
  | _ => f

/-- The deadline of a transfer has come. -/
def expired (s : Setup) (f : Funder) (k : Nat) : Funder :=
  match f.stage? k with
  | some (.awaiting o t since) =>
    if s.deadline since ≤ f.now then (f.release o).reach k (.done (.error (unconfirmed s t))) else f
  | _ => f

/-! ## Events -/

/-- The state after an event. -/
def step (s : Setup) (f : Funder) : Event → Funder
  | .request worker => { f with transfers := f.transfers.push ⟨worker, .requested⟩ }
  | .begin k => f.begin s k
  | .quoted k answer => f.quoted s k answer
  | .granted k => f.granted s k
  | .sent k answer => f.sent k answer
  | .resynced k answer => f.resynced k answer
  | .answered k answer => f.answered s k answer
  | .expired k => f.expired s k
  | .pass time => { f with now := max f.now time }

/-- The state after a sequence of events. -/
def after (s : Setup) (f : Funder) (events : List Event) : Funder := events.foldl (step s) f

/-! ## Topping up -/

/-- The workers whose balance is below the minimum. -/
def needy (s : Setup) (f : Funder) : List Nat :=
  (List.range f.registry.workers.size).filter fun i =>
    match f.registry.workers[i]? with
    | some a => s.plan.needsTopUp a.balance
    | none => false

/-- The result of a transfer that is over. -/
def result? (f : Funder) (k : Nat) : Option (Except Failure Confirmation) :=
  match f.stage? k with
  | some (.done result) => some result
  | _ => none

/-- How a top-up ended: how many workers were funded, or the first failure, given the results in the order in which
the transfers ended. -/
def topUpResult (results : List (Except Failure Confirmation)) : Except Failure Nat :=
  match results.findSome? fun r => match r with
    | .error e => some e
    | .ok _ => none with
  | some e => .error e
  | none => .ok results.length

/-- What is said before a top-up. -/
def topUpLog (s : Setup) (needy : List Nat) : List Log.Entry :=
  if s.plan.disabled then []
  else if needy.isEmpty then [⟨"funding", .debug, "All workers above minimum balance", []⟩]
  else
    [⟨"funding", .info, "Topping up workers",
      [("workers", .number needy.length), ("amount", .number s.plan.prefund)]⟩]

/-- What is said after a top-up. -/
def topUpEndLog (results : List (Except Failure Confirmation)) : List Log.Entry :=
  match topUpResult results with
  | .ok _ => []
  | .error e =>
    let funded := (results.filter (·.isOk)).length
    [⟨"funding", .warn, "Top-up incomplete", [
      ("funded", .number funded),
      ("failed", .number (results.length - funded)),
      ("error", .text e.message)]⟩]

end Funder

end TxLoad.Funding
