import TxLoad.Dispatch.Run.Basic

/-!
# One dispatch, from its admission to its submission

A dispatch picks an endpoint and a worker, learns the fees, builds, signs and submits its transaction. What fails on
the way ends the dispatch (`Run.abandon`); enough such failures with no submission in between are fatal.

- `Run.begin`, `Run.quoted` and `Run.sent` are the steps: the first one, and the ones after the answers of the
  endpoint. Each changes nothing unless the dispatch is at the stage that the step belongs to.
-/

namespace TxLoad.Dispatch.Run

/-! ## Failure -/

/-- What is said when a dispatch fails. -/
def abandonLog (i : Nat) (rpc : Option String) (streak : Nat) (e : Failure) : Log.Entry :=
  ⟨"dispatch", .warn, "Could not send transaction", [
    ("rpc", .text (rpc.getD "-")),
    ("tx", .number (i + 1)),
    ("streak", .number streak),
    ("error", .text e.message)]⟩

/-- The fatal failure of a run in which nothing is submitted any more, if the failures in a row are enough. -/
def stalled? (o : Options) (streak : Nat) (e : Failure) : Option Failure :=
  if 0 < o.maxFailures ∧ o.maxFailures ≤ streak then some (.dispatchStalled streak e.message) else none

/-- Ends a dispatch with a failure. It is over before its slot comes free. -/
def abandon (s : Setup) (r : Run) (i : Nat) (rpc : Option String) (e : Failure) : Run :=
  let stats := r.context.stats.fail
  let r := { r with context := { r.context with stats := stats } }.say (abandonLog i rpc stats.streak e)
  let r := match stalled? s.options stats.streak e with
    | some fatal => r.raise fatal
    | none => r
  { r.reach i (.failed e) with context := (r.context.finish false).release }

/-! ## From the quote to the signed transaction -/

/-- Builds the transaction of a dispatch at a quote, and hands it to the submission path. -/
def assemble (s : Setup) (r : Run) (i endpoint worker : Nat) (quote : Fee.Quote) : Run :=
  let rpc := s.endpointName endpoint
  match r.registry.workers[worker]? with
  | none => r.abandon s i (some rpc) .noAccounts
  | some account =>
    let r := r.sayAll (s.scenario.payloadLog i)
    match s.scenario.payload i account.address (s.draws i).value with
    | .error e => r.abandon s i (some rpc) e
    | .ok payload =>
      let (account, signed) := account.assemble payload quote
      let r := { r with registry := r.registry.modifyWorker worker fun _ => account }
      match signed with
      | .error e => r.abandon s i (some rpc) e
      | .ok t => { r.reach i (.sending endpoint worker t) with submissions := r.submissions.push (s.path, t) }

/-- Goes on with the fees that a dispatch has learnt. -/
def price (s : Setup) (r : Run) (i endpoint worker : Nat) (quote : Fee.Quote) : Run :=
  let quote := quote.clamped
  (r.sayAll (quote.warnings (s.endpointName endpoint))).assemble s i endpoint worker quote

/-! ## Steps -/

/-- The first step of a dispatch: it picks an endpoint and a worker, and asks for the fees unless they are set by
hand. -/
def begin (s : Setup) (r : Run) (i : Nat) : Run :=
  match r.jobs[i]? with
  | some .admitted =>
    match r.pool.select s.options.endpointSelection i (s.draws i).endpoint with
    | (.error e, pool) => { r with pool := pool }.abandon s i none e
    | (.ok endpoint, pool) =>
      let (worker, registry) := r.registry.pick s.options.walletSelection i (s.draws i).wallet
      let r := { r with pool := pool, registry := registry }
      match s.overrides.quote? with
      | some quote => r.price s i endpoint worker quote
      | none => r.reach i (.quoting endpoint worker)
  | _ => r

/-- The endpoint answered with a fee cap and a tip. -/
def quoted (s : Setup) (r : Run) (i : Nat) (answer : Except Failure (Nat × Nat)) : Run :=
  match r.jobs[i]? with
  | some (.quoting endpoint worker) =>
    match answer with
    | .error e => r.abandon s i (some (s.endpointName endpoint)) e
    | .ok (feeCap, tipCap) => r.price s i endpoint worker ⟨feeCap, tipCap⟩
  | _ => r

/-- What is said of a submission. -/
def sentLog (p : Pending) (rpc : String) : Log.Entry :=
  ⟨"dispatch", .info, "Sent tx", [
    ("rpc", .text rpc),
    ("tx", .number (p.index + 1)),
    ("hash", .text p.transaction.hashText),
    ("from", .text p.transaction.sender.checksummed),
    ("nonce", .number p.transaction.nonce)]⟩

/-- The transaction was submitted, or refused. -/
def sent (s : Setup) (r : Run) (i : Nat) (answer : Except Failure Unit) : Run :=
  match r.jobs[i]? with
  | some (.sending endpoint worker t) =>
    let rpc := s.endpointName endpoint
    match answer with
    | .error e => r.abandon s i (some rpc) e
    | .ok () =>
      let p : Pending := ⟨i, endpoint, worker, t, r.now⟩
      let context := { r.context with stats := r.context.stats.submission }.finish true
      ({ r with context := context }.say (sentLog p rpc)).reach i (.submitted p)
  | _ => r

end TxLoad.Dispatch.Run
