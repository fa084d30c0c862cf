import TxLoad.Proofs.Funding.Progress
import TxLoad.Simulation.Calls

/-!
# A transfer with nobody else under way

A transfer goes from event to event; while nobody else wants the lock, it is a straight line of calls, of which each
begins when the one before is over.

- `TransferOutcome` is what a transfer comes to, `Alone.transfer` is the straight line, call by call;
- `Stands` says how far one transfer of a funder has come while nobody waits for the lock, with what each event makes
  of that.
-/

namespace TxLoad.Funding

open Network (Net Answer Endpoint)

/-- What a transfer comes to: its result, unless it never returns, and what it leaves behind. -/
structure TransferOutcome where
  result : Option (Except Failure Confirmation)
  registry : Registry
  committed : Nat
  net : Net

/-- Nobody has the lock or waits for it. -/
structure Funder.Unlocked (f : Funder) : Prop where
  holder : f.holder = none
  queue : f.queue = []

/-- The payload of a transfer to a worker. -/
def Setup.payloadTo (s : Setup) (r : Registry) (w : Nat) : Payload :=
  .transfer ((r.workers[w]?.map (·.address)).getD .zero) s.plan.prefund

/-- What signing a transfer to a worker comes to. -/
def Setup.signature (s : Setup) (r : Registry) (w : Nat) (q : Fee.Quote) : Except Failure SignedTransaction :=
  (r.funding.draft (s.payloadTo r w) q).sign r.funding.key r.funding.address

/-- The accounts after the receipt of a transfer to a worker. -/
def Setup.settled (s : Setup) (r : Registry) (w : Nat) (c : Confirmation) : Registry :=
  if c.success then
    (r.modifyFunding (·.debit (Wei.plus s.plan.prefund c.totalFee))).modifyWorker w (·.credit s.plan.prefund)
  else r.modifyFunding (·.debit c.totalFee)

theorem minus_plus {c required balance : Nat} (word : balance ≤ word256Max)
    (covered : required ≤ Wei.minus balance c) (positive : 0 < required) :
    Wei.minus (Wei.plus c required) required = c := by
  unfold Wei.minus Wei.plus at *
  omega

/-- A transfer costs something at every quote that is raised to the floor. -/
theorem maxCost_pos (s : Setup) (q : Fee.Quote) : 0 < s.maxCost q.clamped := by
  have floored : 0 < q.clamped.feeCap := Nat.lt_of_lt_of_le (by decide) (Nat.le_max_right q.feeCap Fee.floor)
  have gas : 0 < q.clamped.feeCap * Payload.transferGas := Nat.mul_pos floored (by decide)
  have word : 0 < word256Max := by decide
  show 0 < Wei.plus (Wei.times q.clamped.feeCap Payload.transferGas) s.plan.prefund
  unfold Wei.plus Wei.times
  omega

/-! ## The straight line -/

namespace Alone

/-- The transaction is out since `since`: its receipt comes up to the end of the patience, or too late. -/
def watch (s : Setup) (w i : Nat) (t : SignedTransaction) (since c : Nat) (r : Registry) (net : Net) : TransferOutcome :=
  let (answer, n) := net.ask i (·.watch t)
  match answer.result with
  | none => ⟨some (.error (Funder.unconfirmed s t)), r, c, n⟩
  | some result =>
    if s.patience < answer.delay then ⟨some (.error (Funder.unconfirmed s t)), r, c, n⟩
    else
      let n := n.finish i (since + answer.delay) (.watched result.isOk t)
      match result with
      | .error e => ⟨some (.error e), r, c, n⟩
      | .ok receipt => ⟨some (Funder.verdict t receipt), s.settled r w receipt, c, n⟩

/-- The transaction was refused: the nonce is read again. -/
def resync (i : Nat) (e : Failure) (time c : Nat) (r : Registry) (net : Net) : TransferOutcome :=
  let heard := net.call i time (·.askNonce r.funding.address) fun _ => .askedNonce r.funding.address
  match heard.result with
  | none => ⟨none, r, c, heard.net⟩
  | some answer =>
    let r := r.modifyFunding fun a => { a with nextNonce := answer.toOption.getD a.nextNonce }
    ⟨some (.error e), r, c, heard.net⟩

/-- The transaction is signed: it is submitted. -/
def submit (s : Setup) (w i : Nat) (t : SignedTransaction) (time c : Nat) (r : Registry) (net : Net) : TransferOutcome :=
  let heard := net.call i time (·.submit t) fun result => .sent result.isOk t
  match heard.result with
  | none => ⟨none, r, c, heard.net⟩
  | some (.error e) => resync i e heard.time c r heard.net
  | some (.ok ()) => watch s w i t heard.time c r heard.net

/-- The fees are known: the balance is checked, and the transaction signed. -/
def enter (s : Setup) (w i : Nat) (q : Fee.Quote) (time c : Nat) (r : Registry) (net : Net) : TransferOutcome :=
  let available := Wei.minus r.funding.balance c
  if available < s.maxCost q then ⟨some (.error (Funder.insufficient (s.maxCost q) available)), r, c, net⟩
  else
    match s.signature r w q with
    | .error e => ⟨some (.error e), r.modifyFunding Account.reserve, c, net⟩
    | .ok t => submit s w i t time c (r.modifyFunding Account.reserve) net

/-- A transfer, from its request to its end. -/
def transfer (s : Setup) (f : Funder) (w : Nat) (net : Net) : TransferOutcome :=
  match f.pool.good.head? with
  | none => ⟨some (.error (.noHealthyEndpoints f.pool.total)), f.registry, f.committed, net⟩
  | some i =>
    let heard := net.quote i f.now s.overrides
    match heard.result with
    | none => ⟨none, f.registry, f.committed, heard.net⟩
    | some (.error e) => ⟨some (.error e), f.registry, f.committed, heard.net⟩
    | some (.ok q) => enter s w i q heard.time f.committed f.registry heard.net

end Alone

/-! ## The transfer of a funder -/

/-- **Transfer `k`, to worker `w`, has come to a stage**, and has the lock or not; nobody waits for it. -/
structure Stands (k w : Nat) (r : Registry) (c now : Nat) (held : Bool) (st : Stage) (f : Funder) : Prop where
  transfer : f.transfers[k]? = some ⟨w, st⟩
  registry : f.registry = r
  committed : f.committed = c
  holder : f.holder = if held then some k else none
  queue : f.queue = []
  now : f.now = now

namespace Stands

variable {s : Setup} {k w c now : Nat} {r : Registry} {held : Bool} {st : Stage} {f : Funder}

theorem stage? (h : Stands k w r c now held st f) : f.stage? k = some st := by
  unfold Funder.stage?
  rw [h.transfer]
  rfl

theorem result? (h : Stands k w r c now held st f) : f.result? k = none ↔ st.isDone = false := by
  unfold Funder.result?
  rw [h.stage?]
  cases st with
  | done result => exact ⟨nofun, nofun⟩
  | _ => exact ⟨fun _ => rfl, fun _ => rfl⟩

theorem payload (h : Stands k w r c now held st f) : f.payload s k = s.payloadTo r w := by
  unfold Funder.payload Funder.workerAddress
  rw [h.transfer, h.registry]
  rfl

theorem available (h : Stands k w r c now held st f) : f.available = Wei.minus r.funding.balance c := by
  unfold Funder.available
  rw [h.registry, h.committed]

/-- The transfer comes to another stage; the lock stays where it is. -/
theorem reach (h : Stands k w r c now held st f) (b : Stage) : Stands k w r c now held b (f.reach k b) := by
  have there : (f.transfers.modify k fun t => { t with stage := b })[k]? = some ⟨w, b⟩ := by
    rw [Array.getElem?_modify, if_pos rfl, h.transfer]
    rfl
  exact { h with transfer := there }

theorem unlock (h : Stands k w r c now held st f) : Stands k w r c now false st f.unlock := by
  have first : f.queue.head? = none := by rw [h.queue]; rfl
  have rest : f.queue.tail = [] := by rw [h.queue]; rfl
  exact { h with holder := first, queue := rest }

theorem take (h : Stands k w r c now held st f) : Stands k w r c now true st { f with holder := some k } :=
  { h with holder := rfl }

theorem accounts (h : Stands k w r c now held st f) (r' : Registry) :
    Stands k w r' c now held st { f with registry := r' } :=
  { h with registry := rfl }

theorem commit (h : Stands k w r c now held st f) (c' : Nat) :
    Stands k w r c' now held st { f with committed := c' } :=
  { h with committed := rfl }

theorem log (h : Stands k w r c now held st f) (log : Array Log.Entry) :
    Stands k w r c now held st { f with log := log } :=
  { h with }

theorem pass (h : Stands k w r c now held st f) {time : Nat} (later : now ≤ time) :
    Stands k w r c time held st (f.step s (.pass time)) := by
  have moved : max f.now time = time := by rw [h.now]; exact Nat.max_eq_right later
  exact { h with now := moved }

/-! ### Events -/

variable {since : Nat} {o : Offer} {t : SignedTransaction} {e : Failure}

/-- A transfer with known fees that finds the lock free takes it, and goes on to the check of the balance. -/
theorem enter (h : Stands k w r c now false st f) (i : Nat) (q : Fee.Quote) :
    ∃ f₁, Stands k w r c now true (.queued ⟨i, q.clamped, s.maxCost q.clamped⟩) f₁ ∧
      f.enter s k i q = f₁.checkFunds s k ⟨i, q.clamped, s.maxCost q.clamped⟩ := by
  refine ⟨_, ((h.log (f.sayAll (q.clamped.warnings (s.endpointName i))).log).reach _).take, ?_⟩
  unfold Funder.enter
  dsimp only
  have free : (f.sayAll (q.clamped.warnings (s.endpointName i))).holder = none := h.holder
  rw [free]
  rfl

/-- The first good endpoint is picked. -/
theorem begin_eq (h : Stands k w r c now false .requested f) :
    f.step s (.begin k) =
      match f.pool.good.head? with
      | none => f.reach k (.done (.error (.noHealthyEndpoints f.pool.total)))
      | some i =>
        match s.overrides.quote? with
        | some q => f.enter s k i q
        | none => f.reach k (.quoting i) := by
  show f.begin s k = _
  unfold Funder.begin Pool.select
  rw [h.stage?]
  dsimp only [Selection.pick]
  rw [Nat.zero_mod, List.head?_eq_getElem?]
  cases f.pool.good[0]? <;> rfl

theorem unquoted {i : Nat} (h : Stands k w r c now held (.quoting i) f) (e : Failure) :
    Stands k w r c now held (.done (.error e)) (f.step s (.quoted k (.error e))) := by
  show Stands _ _ _ _ _ _ _ (f.quoted s k (.error e))
  unfold Funder.quoted
  rw [h.stage?]
  exact h.reach _

theorem quoted {i : Nat} (h : Stands k w r c now held (.quoting i) f) (fees : Nat × Nat) :
    f.step s (.quoted k (.ok fees)) = f.enter s k i ⟨fees.1, fees.2⟩ := by
  show f.quoted s k (.ok fees) = _
  unfold Funder.quoted
  rw [h.stage?]

theorem check_of_poor (h : Stands k w r c now true (.queued o) f)
    (poor : Wei.minus r.funding.balance c < o.required) :
    Stands k w r c now false (.done (.error (Funder.insufficient o.required (Wei.minus r.funding.balance c))))
      (f.checkFunds s k o) := by
  rw [← h.available] at poor ⊢
  rw [Funder.checkFunds_of_poor poor]
  exact (h.reach _).unlock

theorem assemble (h : Stands k w r c now true (.queued o) f) :
    f.registry.funding.assemble (f.payload s k) o.quote = (r.funding.reserve, s.signature r w o.quote) := by
  rw [Funder.assemble_payload, h.payload, h.registry]
  rfl

theorem check_of_unsigned (h : Stands k w r c now true (.queued o) f)
    (covered : o.required ≤ Wei.minus r.funding.balance c)
    (failed : s.signature r w o.quote = .error e) :
    Stands k w (r.modifyFunding Account.reserve) c now false (.done (.error e)) (f.checkFunds s k o) := by
  have made := h.assemble (s := s)
  rw [failed] at made
  rw [← h.available] at covered
  rw [Funder.checkFunds_of_unsigned covered made, h.registry]
  exact ((h.accounts _).reach _).unlock

theorem check_of_signed (h : Stands k w r c now true (.queued o) f)
    (covered : o.required ≤ Wei.minus r.funding.balance c)
    (signed : s.signature r w o.quote = .ok t) :
    Stands k w (r.modifyFunding Account.reserve) c now true (.sending o t) (f.checkFunds s k o) := by
  have made := h.assemble (s := s)
  rw [signed] at made
  rw [← h.available] at covered
  rw [Funder.checkFunds_of_signed covered made, h.registry]
  exact (h.accounts _).reach _

theorem accepted (h : Stands k w r c now true (.sending o t) f) :
    Stands k w r (Wei.plus c o.required) now false (.awaiting o t now) (f.step s (.sent k (.ok ()))) := by
  show Stands _ _ _ _ _ _ _ (f.sent k (.ok ()))
  unfold Funder.sent
  rw [h.stage?]
  dsimp only
  rw [h.committed, h.now]
  exact ((h.reach _).commit _).unlock

theorem refused (h : Stands k w r c now true (.sending o t) f) (e : Failure) :
    Stands k w r c now true (.resyncing o e) (f.step s (.sent k (.error e))) := by
  show Stands _ _ _ _ _ _ _ (f.sent k (.error e))
  unfold Funder.sent
  rw [h.stage?]
  exact h.reach _

/-- The transfer is over when the nonce was read again, or could not be read. -/
theorem resynced (h : Stands k w r c now true (.resyncing o e) f) (answer : Except Failure Nat) :
    Stands k w (r.modifyFunding fun a => { a with nextNonce := answer.toOption.getD a.nextNonce }) c now false
      (.done (.error e)) (f.step s (.resynced k answer)) := by
  show Stands _ _ _ _ _ _ _ (f.resynced k answer)
  unfold Funder.resynced
  rw [h.stage?]
  cases answer with
  | ok n =>
    dsimp only
    rw [h.registry]
    exact (((h.accounts _).log _).reach _).unlock
  | error e' => exact ((h.log _).reach _).unlock

/-- A receipt that comes in time ends the transfer. -/
theorem received (h : Stands k w r c now false (.awaiting o t since) f) (timely : now ≤ s.deadline since)
    (receipt : Confirmation) :
    Stands k w (s.settled r w receipt) (Wei.minus c o.required) now false (.done (Funder.verdict t receipt))
      (f.step s (.answered k (.ok receipt))) := by
  show Stands _ _ _ _ _ _ _ (f.answered s k (.ok receipt))
  unfold Funder.answered
  rw [h.stage?]
  dsimp only
  rw [h.now, if_pos timely]
  have released : Stands k w r (Wei.minus c o.required) now false (.awaiting o t since) (f.release o) := by
    rw [← h.committed]
    exact h.commit _
  unfold Funder.settle Setup.settled Funder.verdict
  rw [released.transfer, released.registry]
  cases receipt.success with
  | true => exact ((released.log _).reach _).accounts _
  | false => exact (released.reach _).accounts _

/-- A wait that comes to nothing in time ends the transfer. -/
theorem lost (h : Stands k w r c now false (.awaiting o t since) f) (timely : now ≤ s.deadline since) (e : Failure) :
    Stands k w r (Wei.minus c o.required) now false (.done (.error e)) (f.step s (.answered k (.error e))) := by
  show Stands _ _ _ _ _ _ _ (f.answered s k (.error e))
  unfold Funder.answered
  rw [h.stage?]
  dsimp only
  rw [h.now, if_pos timely, ← h.committed]
  exact (h.commit _).reach _

/-- The deadline ends the transfer. -/
theorem expired (h : Stands k w r c now false (.awaiting o t since) f) (due : s.deadline since ≤ now) :
    Stands k w r (Wei.minus c o.required) now false (.done (.error (Funder.unconfirmed s t)))
      (f.step s (.expired k)) := by
  show Stands _ _ _ _ _ _ _ (f.expired s k)
  unfold Funder.expired
  rw [h.stage?]
  dsimp only
  rw [h.now, if_pos due, ← h.committed]
  exact (h.commit _).reach _

end Stands

end TxLoad.Funding
