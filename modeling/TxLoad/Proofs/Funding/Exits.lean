import TxLoad.Proofs.Funding.Solo

/-!
# How a transfer can end

A transfer that is asked for while nobody else wants the lock ends in one of several ways, or never returns; which one
it is depends on the pool, the funding account and the answers of its endpoint alone.

- `Quoted`, `Signed` and `Accepted` are how far a transfer got;
- `Exit s f net w u`: **every way to end, with its own effect** `u` on the accounts, on what is committed and on the
  network;
- a transfer takes exactly one exit (`exists_exit`, `Exit.eq`), and **asking for one transfer comes to that**
  (`single_transfer_exact`).
-/

namespace TxLoad.Funding

open Network (Net Answer Endpoint)

/-- The accounts with another next nonce and another balance of the funding account. -/
def Funder.accountsWith (f : Funder) (nonce balance : Nat) : Registry :=
  f.registry.modifyFunding (·.withState nonce balance)

/-- The accounts after a nonce was used up; both balances are what they were. -/
def Funder.nonceUsed (f : Funder) : Registry :=
  f.accountsWith (f.registry.funding.nextNonce + 1) f.registry.funding.balance

/-- The accounts after a nonce was used up and the funding account paid an amount, as far as it has it. -/
def Funder.accountsAfter (f : Funder) (amount : Nat) : Registry :=
  f.accountsWith (f.registry.funding.nextNonce + 1)
    (f.registry.funding.balance - min f.registry.funding.balance amount)

/-- The accounts after a worker received the amount of the plan too, up to the greatest amount there is. -/
def Funder.accountsPaid (s : Setup) (f : Funder) (w amount : Nat) : Registry :=
  (f.accountsAfter (s.plan.prefund + amount)).modifyWorker w fun a =>
    { a with balance := min (a.balance + s.plan.prefund) word256Max }

/-! ## How far a transfer got -/

/-- The transfer knows its fees at `time`: those of the first good endpoint `i`. -/
structure Quoted (s : Setup) (f : Funder) (net : Net) (i : Nat) (q : Fee.Quote) (time : Nat) (n : Net) : Prop where
  first : f.pool.good.head? = some i
  heard : net.quote i f.now s.overrides = ⟨time, some (.ok q), n⟩

/-- The funding account can pay the transfer, and signed its transaction `t`. -/
structure Signed (s : Setup) (f : Funder) (net : Net) (w i : Nat) (q : Fee.Quote) (t : SignedTransaction) (time : Nat)
    (n : Net) : Prop extends Quoted s f net i q time n where
  covered : s.maxCost q ≤ f.available
  signed : s.signature f.registry w q = .ok t

/-- The answer to the submission of a transaction at `time` comes in at `since`. -/
def Submitted (n : Net) (i time : Nat) (t : SignedTransaction) (since : Nat) (answer : Option (Except Failure Unit))
    (n' : Net) : Prop :=
  n.call i time (·.submit t) (fun result => .sent result.isOk t) = ⟨since, answer, n'⟩

/-- The answer to the question about the nonce of the funding account. -/
def Reread (f : Funder) (n : Net) (i since : Nat) (answer : Option (Except Failure Nat)) (n' : Net) : Prop :=
  ∃ time, n.call i since (·.askNonce f.registry.funding.address) (fun _ => .askedNonce f.registry.funding.address) =
    ⟨time, answer, n'⟩

/-- The endpoint accepted the transaction `t` at `since`. -/
def Accepted (s : Setup) (f : Funder) (net : Net) (w i : Nat) (t : SignedTransaction) (since : Nat) (n : Net) : Prop :=
  ∃ q time n₁, Signed s f net w i q t time n₁ ∧ Submitted n₁ i time t since (some (.ok ())) n

/-- The endpoint refused the transaction `t` at `since`. -/
def Refused (s : Setup) (f : Funder) (net : Net) (w i : Nat) (e : Failure) (since : Nat) (n : Net) : Prop :=
  ∃ q t time n₁, Signed s f net w i q t time n₁ ∧ Submitted n₁ i time t since (some (.error e)) n

/-! ## Exits -/

/-- **The ways in which a transfer to worker `w` ends**, each with its effect. The last three never return. -/
inductive Exit (s : Setup) (f : Funder) (net : Net) (w : Nat) : TransferOutcome → Prop
  | noEndpoint (nobody : f.pool.good = []) :
      Exit s f net w ⟨some (.error (.noHealthyEndpoints f.pool.total)), f.registry, f.committed, net⟩
  | unquoted {i time : Nat} {e : Failure} {n : Net} (first : f.pool.good.head? = some i)
      (heard : net.quote i f.now s.overrides = ⟨time, some (.error e), n⟩) :
      Exit s f net w ⟨some (.error e), f.registry, f.committed, n⟩
  | insufficient {i time : Nat} {q : Fee.Quote} {n : Net} (quoted : Quoted s f net i q time n)
      (poor : f.available < s.maxCost q) :
      Exit s f net w
        ⟨some (.error (.insufficientFunds (toString (s.maxCost q)) (toString f.available))), f.registry, f.committed, n⟩
  | unsigned {i time : Nat} {q : Fee.Quote} {n : Net} {e : Failure} (quoted : Quoted s f net i q time n)
      (covered : s.maxCost q ≤ f.available) (failed : s.signature f.registry w q = .error e) :
      Exit s f net w ⟨some (.error e), f.nonceUsed, f.committed, n⟩
  | refused {i since nonce : Nat} {e : Failure} {n n' : Net} (refused : Refused s f net w i e since n)
      (reread : Reread f n i since (some (.ok nonce)) n') :
      Exit s f net w ⟨some (.error e), f.accountsWith nonce f.registry.funding.balance, f.committed, n'⟩
  | refusedBlind {i since : Nat} {e e' : Failure} {n n' : Net} (refused : Refused s f net w i e since n)
      (reread : Reread f n i since (some (.error e')) n') :
      Exit s f net w ⟨some (.error e), f.nonceUsed, f.committed, n'⟩
  | late {i since : Nat} {t : SignedTransaction} {answer : Answer Confirmation} {n n' : Net}
      (accepted : Accepted s f net w i t since n) (asked : n.ask i (·.watch t) = (answer, n'))
      (late : answer.result = none ∨ s.patience < answer.delay) :
      Exit s f net w ⟨some (.error (Funder.unconfirmed s t)), f.nonceUsed, f.committed, n'⟩
  | lost {i since delay : Nat} {t : SignedTransaction} {e : Failure} {n n' : Net}
      (accepted : Accepted s f net w i t since n) (asked : n.ask i (·.watch t) = (⟨delay, some (.error e)⟩, n'))
      (timely : delay ≤ s.patience) :
      Exit s f net w
        ⟨some (.error e), f.nonceUsed, f.committed, n'.finish i (since + delay) (.watched false t)⟩
  | reverted {i since delay : Nat} {t : SignedTransaction} {c : Confirmation} {n n' : Net}
      (accepted : Accepted s f net w i t since n) (asked : n.ask i (·.watch t) = (⟨delay, some (.ok c)⟩, n'))
      (timely : delay ≤ s.patience) (reverted : c.success = false) :
      Exit s f net w
        ⟨some (.error (Funder.revertedFailure t)), f.accountsAfter c.totalFee, f.committed,
          n'.finish i (since + delay) (.watched true t)⟩
  | funded {i since delay : Nat} {t : SignedTransaction} {c : Confirmation} {n n' : Net}
      (accepted : Accepted s f net w i t since n) (asked : n.ask i (·.watch t) = (⟨delay, some (.ok c)⟩, n'))
      (timely : delay ≤ s.patience) (success : c.success) :
      Exit s f net w
        ⟨some (.ok c), f.accountsPaid s w c.totalFee, f.committed, n'.finish i (since + delay) (.watched true t)⟩
  | feesUnanswered {i time : Nat} {n : Net} (first : f.pool.good.head? = some i)
      (heard : net.quote i f.now s.overrides = ⟨time, none, n⟩) :
      Exit s f net w ⟨none, f.registry, f.committed, n⟩
  | sendUnanswered {i time since : Nat} {q : Fee.Quote} {t : SignedTransaction} {n n' : Net}
      (signed : Signed s f net w i q t time n) (submitted : Submitted n i time t since none n') :
      Exit s f net w ⟨none, f.nonceUsed, f.committed, n'⟩
  | nonceUnanswered {i since : Nat} {e : Failure} {n n' : Net} (refused : Refused s f net w i e since n)
      (reread : Reread f n i since none n') :
      Exit s f net w ⟨none, f.nonceUsed, f.committed, n'⟩

section Exact

variable {s : Setup} {f : Funder} {net n n' : Net} {w i time since : Nat} {q : Fee.Quote} {t : SignedTransaction}
  {e : Failure} {u : TransferOutcome}

/-! ## The straight line takes the exit -/

theorem Quoted.transfer (h : Quoted s f net i q time n) :
    Alone.transfer s f w net = Alone.enter s w i q time f.committed f.registry n := by
  unfold Alone.transfer
  rw [h.first]
  dsimp only
  rw [h.heard]

/-- A transfer that is covered uses up a nonce, and is submitted if it can be signed. -/
theorem Quoted.transfer_of_covered (h : Quoted s f net i q time n) (covered : s.maxCost q ≤ f.available) :
    Alone.transfer s f w net =
      match s.signature f.registry w q with
      | .error e => ⟨some (.error e), f.nonceUsed, f.committed, n⟩
      | .ok t => Alone.submit s w i t time f.committed f.nonceUsed n := by
  have covered : ¬Wei.minus f.registry.funding.balance f.committed < s.maxCost q := Nat.not_lt.2 covered
  rw [h.transfer]
  unfold Alone.enter
  dsimp only
  rw [if_neg covered]
  cases s.signature f.registry w q <;> rfl

theorem Signed.transfer (h : Signed s f net w i q t time n) :
    Alone.transfer s f w net = Alone.submit s w i t time f.committed f.nonceUsed n := by
  rw [h.toQuoted.transfer_of_covered h.covered, h.signed]

theorem Accepted.transfer (h : Accepted s f net w i t since n) :
    Alone.transfer s f w net = Alone.watch s w i t since f.committed f.nonceUsed n := by
  obtain ⟨q, time, n₁, signed, submitted⟩ := h
  rw [signed.transfer]
  unfold Alone.submit
  rw [submitted]

theorem Refused.transfer (h : Refused s f net w i e since n) :
    Alone.transfer s f w net = Alone.resync i e since f.committed f.nonceUsed n := by
  obtain ⟨q, t, time, n₁, signed, submitted⟩ := h
  rw [signed.transfer]
  unfold Alone.submit
  rw [submitted]

/-- A refused transfer goes by what is said about the nonce. -/
theorem Refused.transfer_of_reread {answer : Option (Except Failure Nat)} (reread : Reread f n i since answer n')
    (h : Refused s f net w i e since n) :
    Alone.transfer s f w net =
      ⟨answer.map fun _ => .error e,
        f.accountsWith ((answer.bind (·.toOption)).getD (f.registry.funding.nextNonce + 1)) f.registry.funding.balance,
        f.committed, n'⟩ := by
  obtain ⟨time, reread⟩ := reread
  have same : f.nonceUsed.funding.address = f.registry.funding.address := rfl
  rw [h.transfer]
  unfold Alone.resync
  rw [same, reread]
  cases answer <;> rfl

theorem settled_of_reverted {c : Confirmation} (reverted : c.success = false) :
    s.settled f.nonceUsed w c = f.accountsAfter c.totalFee := by
  unfold Setup.settled Funder.accountsAfter Funder.accountsWith
  rw [if_neg (by rw [reverted]; exact Bool.false_ne_true), ← Nat.sub_eq_sub_min]
  rfl

/-- A successful transfer costs its fee and the value that the worker receives. -/
theorem settled_of_success {c : Confirmation} (word : f.registry.funding.balance ≤ word256Max) (success : c.success) :
    s.settled f.nonceUsed w c = f.accountsPaid s w c.totalFee := by
  have paid : f.registry.funding.balance - Wei.plus s.plan.prefund c.totalFee =
      f.registry.funding.balance - min f.registry.funding.balance (s.plan.prefund + c.totalFee) := by
    unfold Wei.plus
    omega
  unfold Setup.settled Funder.accountsPaid Funder.accountsAfter Funder.accountsWith
  rw [if_pos success, ← paid]
  rfl

/-- **A transfer comes to no other exit than the one that the straight line takes.** -/
theorem Exit.eq (word : f.registry.funding.balance ≤ word256Max) (exit : Exit s f net w u) :
    u = Alone.transfer s f w net := by
  cases exit with
  | noEndpoint nobody =>
    unfold Alone.transfer
    rw [nobody]
    rfl
  | unquoted first heard | feesUnanswered first heard =>
    unfold Alone.transfer
    rw [first]
    dsimp only
    rw [heard]
  | insufficient quoted poor =>
    rw [quoted.transfer]
    exact (if_pos poor).symm
  | unsigned quoted covered failed => rw [quoted.transfer_of_covered covered, failed]
  | refused refused reread | refusedBlind refused reread | nonceUnanswered refused reread =>
    exact (refused.transfer_of_reread reread).symm
  | late accepted asked late =>
    rw [accepted.transfer]
    unfold Alone.watch
    rw [asked]
    dsimp only
    split
    · rfl
    · next result told =>
      rw [if_pos (late.resolve_left fun none => Option.some_ne_none result (told.symm.trans none))]
  | lost accepted asked timely =>
    rw [accepted.transfer]
    unfold Alone.watch
    rw [asked]
    dsimp only
    rw [if_neg (Nat.not_lt.2 timely)]
    rfl
  | reverted accepted asked timely reverted =>
    rw [accepted.transfer]
    unfold Alone.watch Funder.verdict
    rw [asked]
    dsimp only
    rw [if_neg (Nat.not_lt.2 timely), settled_of_reverted reverted, if_neg (by simp [reverted])]
    rfl
  | funded accepted asked timely success =>
    rw [accepted.transfer]
    unfold Alone.watch Funder.verdict
    rw [asked]
    dsimp only
    rw [if_neg (Nat.not_lt.2 timely), settled_of_success word success, if_pos success]
    rfl
  | sendUnanswered signed submitted =>
    rw [signed.transfer]
    unfold Alone.submit
    rw [submitted]

/-! ## There is always an exit -/

/-- A refused transfer ends when its nonce was read again. -/
theorem exists_exit_of_refused (refused : Refused s f net w i e since n) : ∃ u, Exit s f net w u := by
  rcases heard : n.call i since (·.askNonce f.registry.funding.address)
    (fun _ => .askedNonce f.registry.funding.address) with ⟨time, answer, n'⟩
  match answer with
  | none => exact ⟨_, .nonceUnanswered refused ⟨time, heard⟩⟩
  | some (.error e') => exact ⟨_, .refusedBlind refused ⟨time, heard⟩⟩
  | some (.ok nonce) => exact ⟨_, .refused refused ⟨time, heard⟩⟩

/-- An accepted transfer ends with its receipt, or when the patience does. -/
theorem exists_exit_of_accepted (accepted : Accepted s f net w i t since n) : ∃ u, Exit s f net w u := by
  rcases asked : n.ask i (·.watch t) with ⟨⟨delay, answer⟩, n'⟩
  rcases Nat.lt_or_ge s.patience delay with late | timely
  · exact ⟨_, .late accepted asked (.inr late)⟩
  · match answer with
    | none => exact ⟨_, .late accepted asked (.inl rfl)⟩
    | some (.error e) => exact ⟨_, .lost accepted asked timely⟩
    | some (.ok c) =>
      cases success : c.success with
      | false => exact ⟨_, .reverted accepted asked timely success⟩
      | true => exact ⟨_, .funded accepted asked timely success⟩

/-- **A transfer takes some exit.** -/
theorem exists_exit (s : Setup) (f : Funder) (net : Net) (w : Nat) : ∃ u, Exit s f net w u := by
  cases first : f.pool.good with
  | nil => exact ⟨_, .noEndpoint first⟩
  | cons i rest =>
    have first : f.pool.good.head? = some i := by rw [first]; rfl
    rcases heard : net.quote i f.now s.overrides with ⟨time, answer, n⟩
    match answer with
    | none => exact ⟨_, .feesUnanswered first heard⟩
    | some (.error e) => exact ⟨_, .unquoted first heard⟩
    | some (.ok q) =>
      have quoted : Quoted s f net i q time n := ⟨first, heard⟩
      rcases Nat.lt_or_ge f.available (s.maxCost q) with poor | covered
      · exact ⟨_, .insufficient quoted poor⟩
      cases made : s.signature f.registry w q with
      | error e => exact ⟨_, .unsigned quoted covered made⟩
      | ok t =>
        have signed : Signed s f net w i q t time n := ⟨quoted, covered, made⟩
        rcases submitted : n.call i time (·.submit t) (fun result => .sent result.isOk t) with ⟨since, answer, n'⟩
        match answer with
        | none => exact ⟨_, .sendUnanswered signed submitted⟩
        | some (.error e) => exact exists_exit_of_refused ⟨q, t, time, n, signed, submitted⟩
        | some (.ok ()) => exact exists_exit_of_accepted ⟨q, time, n, signed, submitted⟩

end Exact

/-! ## Nothing is sent -/

/-- How often each endpoint was sent a transaction, and whose transactions it accepted. -/
def sendings (n : Net) : List (Nat × List Address) := n.endpoints.toList.map fun e => (e.send.calls, e.accepted)

/-- A call that sends nothing. -/
theorem sendings_ask {α : Type} {ask : Endpoint → Answer α × Endpoint}
    (mute : ∀ e, (ask e).2.send = e.send ∧ (ask e).2.accepted = e.accepted) (n : Net) (i : Nat) :
    sendings (n.ask i ask).2 = sendings n := by
  unfold Net.ask
  split
  · next e there =>
    have listed : (sendings n)[i]? = some (e.send.calls, e.accepted) := by
      unfold sendings
      rw [List.getElem?_map, Array.getElem?_toList, there]
      rfl
    have written : sendings { n with endpoints := n.endpoints.setIfInBounds i (ask e).2 } =
        (sendings n).set i (e.send.calls, e.accepted) := by
      unfold sendings
      rw [Array.toList_setIfInBounds, List.map_set, (mute e).1, (mute e).2]
    obtain ⟨inside, same⟩ := List.getElem?_eq_some_iff.1 listed
    show sendings { n with endpoints := n.endpoints.setIfInBounds i (ask e).2 } = sendings n
    rw [written, ← same, List.set_getElem_self]
  · rfl

/-- Learning the fees sends nothing. -/
theorem sendings_quote (n : Net) (i time : Nat) (o : Fee.Overrides) : sendings (n.quote i time o).net = sendings n := by
  have asked : sendings (n.ask i Endpoint.askFees).2 = sendings n := sendings_ask (fun _ => ⟨rfl, rfl⟩) n i
  unfold Net.quote
  split
  · rfl
  · unfold Net.call
    rw [← asked]
    dsimp only
    split <;> rfl

/-! ## Asking for one transfer -/

/-- **What asking for one transfer to worker `w` comes to**: it takes exactly one exit; it is a success only if its
receipt comes in time and says so, and only then is the worker paid; what is committed stays; nothing is sent before
the transaction is signed; and one nonce is used up at most, unless the endpoint tells another. -/
structure SingleTransfer (s : Setup) (f : Funder) (net : Net) (w : Nat) (b : Funder.Batch) : Prop where
  exits : ∀ u, Exit s f net w u ↔ u = b.outcome
  returned : b.results = [b.outcome.result]
  committed : b.funder.committed = f.committed
  confirmed : ∀ c, b.outcome.result = some (.ok c) → c.success ∧ ∃ i t since delay n n',
    Accepted s f net w i t since n ∧ n.ask i (·.watch t) = (⟨delay, some (.ok c)⟩, n') ∧ delay ≤ s.patience
  paid : ∀ c a, b.outcome.result = some (.ok c) → f.registry.workers[w]? = some a →
    b.funder.registry.workers[w]? = some { a with balance := min (a.balance + s.plan.prefund) word256Max }
  unpaid : (∀ c, b.outcome.result ≠ some (.ok c)) → b.funder.registry.workers = f.registry.workers
  unsent : (¬∃ i q t time n, Signed s f net w i q t time n) → sendings b.net = sendings net
  room : b.funder.registry.funding.nextNonce ≤ f.registry.funding.nextNonce + 1 ∨
    ∃ i since n n', Reread f n i since (some (.ok b.funder.registry.funding.nextNonce)) n'

namespace Exit

variable {s : Setup} {f : Funder} {net : Net} {w : Nat} {u : TransferOutcome}

theorem committed (exit : Exit s f net w u) : u.committed = f.committed := by
  cases exit <;> rfl

theorem confirmed (exit : Exit s f net w u) {c : Confirmation} (ok : u.result = some (.ok c)) :
    c.success ∧ ∃ i t since delay n n', Accepted s f net w i t since n ∧
      n.ask i (·.watch t) = (⟨delay, some (.ok c)⟩, n') ∧ delay ≤ s.patience := by
  cases exit with
  | funded accepted asked timely success =>
    cases ok
    exact ⟨success, _, _, _, _, _, _, accepted, asked, timely⟩
  | _ => cases ok

theorem paid (exit : Exit s f net w u) {c : Confirmation} (ok : u.result = some (.ok c)) {a : Account}
    (here : f.registry.workers[w]? = some a) :
    u.registry.workers[w]? = some { a with balance := min (a.balance + s.plan.prefund) word256Max } := by
  cases exit with
  | funded accepted asked timely success =>
    show (f.registry.workers.modify w _)[w]? = _
    rw [Array.getElem?_modify, if_pos rfl, here]
    rfl
  | _ => cases ok

theorem unpaid (exit : Exit s f net w u) (failed : ∀ c, u.result ≠ some (.ok c)) :
    u.registry.workers = f.registry.workers := by
  cases exit with
  | funded accepted asked timely success => exact absurd rfl (failed _)
  | _ => rfl

/-- A transfer uses up one nonce at most, unless the endpoint tells another. -/
theorem room (exit : Exit s f net w u) : u.registry.funding.nextNonce ≤ f.registry.funding.nextNonce + 1 ∨
    ∃ i since n n', Reread f n i since (some (.ok u.registry.funding.nextNonce)) n' := by
  cases exit with
  | refused refused reread => exact .inr ⟨_, _, _, _, reread⟩
  | noEndpoint | unquoted | insufficient | feesUnanswered => exact .inl (Nat.le_succ _)
  | _ => exact .inl (Nat.le_refl _)

/-- A transfer that is not signed sends nothing. -/
theorem unsent (exit : Exit s f net w u) (unsigned : ¬∃ i q t time n, Signed s f net w i q t time n) :
    sendings u.net = sendings net := by
  have quoted {i time : Nat} {n : Net} {r : Option (Except Failure Fee.Quote)}
      (heard : net.quote i f.now s.overrides = ⟨time, r, n⟩) : sendings n = sendings net := by
    have same := sendings_quote net i f.now s.overrides
    rw [heard] at same
    exact same
  have refused {i since : Nat} {e : Failure} {n : Net} (refused : Refused s f net w i e since n) : False := by
    obtain ⟨q, t, time, n₁, signed, -⟩ := refused
    exact unsigned ⟨i, q, t, time, n₁, signed⟩
  have accepted {i since : Nat} {t : SignedTransaction} {n : Net} (accepted : Accepted s f net w i t since n) :
      False := by
    obtain ⟨q, time, n₁, signed, -⟩ := accepted
    exact unsigned ⟨i, q, t, time, n₁, signed⟩
  cases exit with
  | noEndpoint nobody => rfl
  | unquoted first heard | feesUnanswered first heard => exact quoted heard
  | insufficient got poor => exact quoted got.heard
  | unsigned got covered failed => exact quoted got.heard
  | refused was reread | refusedBlind was reread | nonceUnanswered was reread => exact (refused was).elim
  | late was | lost was | reverted was | funded was => exact (accepted was).elim
  | sendUnanswered signed submitted => exact absurd ⟨_, _, _, _, _, signed⟩ unsigned

end Exit

/-- **Every way to end has its own effect**: asking for one transfer while nobody else wants the lock comes to the one
exit that pool, funding account and endpoint decide on. -/
theorem single_transfer_exact (s : Setup) (net : Net) (f : Funder) (w : Nat) (unlocked : f.Unlocked)
    (word : f.registry.funding.balance ≤ word256Max) : SingleTransfer s f net w (f.transferAll s net [w] 0) := by
  obtain ⟨same, results⟩ := transferAll_alone s net unlocked word w
  generalize f.transferAll s net [w] 0 = b at same results ⊢
  have exits (u : TransferOutcome) : Exit s f net w u ↔ u = b.outcome := by
    rw [same]
    constructor
    · exact fun exit => exit.eq word
    · rintro rfl
      obtain ⟨u, exit⟩ := exists_exit s f net w
      rw [← exit.eq word]
      exact exit
  have exit := (exits _).2 rfl
  exact {
    exits := exits
    returned := by rw [results, same]
    committed := exit.committed
    confirmed := fun c ok => exit.confirmed ok
    paid := fun c a ok here => exit.paid ok here
    unpaid := exit.unpaid
    unsent := exit.unsent
    room := exit.room }

/-- A funding account with ten wei, and one worker. -/
def poor : Funder :=
  .start ⟨⟨⟨3, by decide, by decide⟩, .zero, 1337, 0, 10⟩, #[⟨⟨4, by decide, by decide⟩, .zero, 1337, 0, 0⟩], 0⟩
    ⟨1, [0], 0⟩ 0

/-- A transfer of a million wei at one gwei is more than ten wei can pay. -/
theorem single_transfer_exact_poor :
    let s : Setup := ⟨⟨1000000, 500000⟩, ⟨1, 1⟩, standardPatience, []⟩
    let net : Net := ⟨#[.usual], #[]⟩
    poor.Unlocked ∧ poor.registry.funding.balance ≤ word256Max ∧
      SingleTransfer s poor net 0 (poor.transferAll s net [0] 0) ∧
      (poor.transferAll s net [0] 0).outcome =
        ⟨some (.error (.insufficientFunds "21000001000000" "10")), poor.registry, 0, net⟩ := by
  intro s net
  have unlocked : poor.Unlocked := ⟨rfl, rfl⟩
  have word : poor.registry.funding.balance ≤ word256Max := by decide
  have exact := single_transfer_exact s net poor 0 unlocked word
  let q : Fee.Quote := Fee.Quote.clamped ⟨1 * Wei.perGwei, 1 * Wei.perGwei⟩
  have quoted : Quoted s poor net 0 q 0 net := ⟨rfl, rfl⟩
  have short : poor.available < s.maxCost q := by decide
  have required : toString (s.maxCost q) = "21000001000000" := by decide +kernel
  have available : toString poor.available = "10" := by decide +kernel
  have outcome := ((exact.exits _).1 (.insufficient quoted short)).symm
  rw [required, available] at outcome
  exact ⟨unlocked, word, exact, outcome⟩

end TxLoad.Funding
