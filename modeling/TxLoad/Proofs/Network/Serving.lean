import TxLoad.Network.Endpoint

/-!
# Endpoints that answer

An endpoint serves if it answers every question about fees and nonces and every submission, sooner or later and with
whatever result; a receipt may never come. A network serves some positions if there is such an endpoint at each of them.

- A call to an endpoint that serves is answered (`Net.Serves.answered`);
- calls, and the notes about them, leave a network that serves as such (`Net.Serves.ask`, `Net.Serves.finish`).

An endpoint informs if it answers every question about an account, its nonce and its balance. The reply to question
number `k` is entry number `k` of the script (`Endpoint.nonceReply`, `Endpoint.balanceReply`).
-/

namespace TxLoad.Network

variable {α : Type}

theorem Entry.exists_result {e : Entry α} (prompt : e.hang = false) (hash : String) (usual : α) :
    ∃ r, (e.answer hash usual).result = some r := by
  unfold answer
  rw [prompt]
  cases e.refusal with
  | some r => exact ⟨_, rfl⟩
  | none => exact ⟨_, rfl⟩

/-- An endpoint that answers about fees and nonces, and says whether it accepts a transaction. -/
structure Endpoint.Serves (e : Endpoint) : Prop where
  fees : ∀ n, (e.fees.script.entry n).hang = false
  nonce : ∀ n, (e.nonce.script.entry n).hang = false
  send : ∀ n, (e.send.script.entry n).hang = false

/-- The endpoints at some positions serve. -/
def Net.Serves (n : Net) (positions : List Nat) : Prop := ∀ i ∈ positions, ∃ e, n.endpoints[i]? = some e ∧ e.Serves

/-- A call that leaves an endpoint that serves as such. -/
def Modest (call : Endpoint → Answer α × Endpoint) : Prop := ∀ e, e.Serves → (call e).2.Serves

/-- A call that an endpoint that serves answers. -/
def Answered (call : Endpoint → Answer α × Endpoint) : Prop := ∀ e, e.Serves → ∃ r, (call e).1.result = some r

namespace Endpoint

/-- An endpoint whose scripts are empty answers every call at once, as nodes usually do. -/
def usual : Endpoint where
  name := ""
  chainId := ⟨.lastRepeats [], 0⟩
  fees := ⟨.lastRepeats [], 0⟩
  nonce := ⟨.lastRepeats [], 0⟩
  balance := ⟨.lastRepeats [], 0⟩
  send := ⟨.lastRepeats [], 0⟩
  receipt := ⟨.lastRepeats [], 0⟩
  health := ⟨.lastRepeats [], 0⟩
  accepted := []

theorem serves_usual : usual.Serves := ⟨fun _ => rfl, fun _ => rfl, fun _ => rfl⟩

theorem modest_askFees : Modest askFees := fun _ h => ⟨h.fees, h.nonce, h.send⟩

theorem modest_askNonce (a : Address) : Modest (·.askNonce a) := fun _ h => ⟨h.fees, h.nonce, h.send⟩

theorem modest_submit (t : SignedTransaction) : Modest (·.submit t) := fun _ h => ⟨h.fees, h.nonce, h.send⟩

theorem modest_watch (t : SignedTransaction) : Modest (·.watch t) := fun _ h => ⟨h.fees, h.nonce, h.send⟩

theorem answered_askFees : Answered askFees := fun _ h => Entry.exists_result (h.fees _) _ _

theorem answered_askNonce (a : Address) : Answered (·.askNonce a) := fun _ h => Entry.exists_result (h.nonce _) _ _

theorem answered_submit (t : SignedTransaction) : Answered (·.submit t) :=
  fun _ h => Entry.exists_result (h.send _) _ _

end Endpoint

/-- A call takes an answer from the endpoint that is there, and leaves the endpoint that the call leaves. -/
theorem Net.ask_of_there {n : Net} {i : Nat} {e : Endpoint} (call : Endpoint → Answer α × Endpoint)
    (there : n.endpoints[i]? = some e) :
    ∃ n', n.ask i call = ((call e).1, n') ∧ n'.endpoints[i]? = some (call e).2 := by
  refine ⟨{ n with endpoints := n.endpoints.setIfInBounds i (call e).2 }, ?_, ?_⟩
  · rw [Net.ask, there]
  · exact Array.getElem?_setIfInBounds_self_of_lt (Array.getElem?_eq_some_iff.1 there).1

namespace Net.Serves

variable {n : Net} {positions : List Nat} {i : Nat} {call : Endpoint → Answer α × Endpoint}

/-- A call to an endpoint that serves is answered. -/
theorem answered (h : n.Serves positions) (mem : i ∈ positions) (answered : Answered call) :
    ∃ r, (n.ask i call).1.result = some r := by
  obtain ⟨e, there, serves⟩ := h i mem
  obtain ⟨n', asked, -⟩ := Net.ask_of_there call there
  rw [asked]
  exact answered e serves

/-- A call leaves a network that serves as such. -/
theorem ask (h : n.Serves positions) (modest : Modest call) (i : Nat) : (n.ask i call).2.Serves positions := by
  intro j mem
  obtain ⟨e, there, serves⟩ := h j mem
  unfold Net.ask
  cases asked : n.endpoints[i]? with
  | none => exact ⟨e, there, serves⟩
  | some e' =>
    dsimp only
    rw [Array.getElem?_setIfInBounds]
    split
    · next same =>
      subst same
      obtain rfl : e' = e := Option.some.inj (asked.symm.trans there)
      rw [if_pos (Array.getElem?_eq_some_iff.1 there).1]
      exact ⟨_, rfl, modest _ serves⟩
    · exact ⟨e, there, serves⟩

/-- A note about a call leaves a network that serves as such. -/
theorem finish (h : n.Serves positions) (i time : Nat) (action : Action) : (n.finish i time action).Serves positions := by
  intro j mem
  obtain ⟨e, there, serves⟩ := h j mem
  unfold Net.finish
  dsimp only
  split
  · dsimp only
    rw [Array.getElem?_modify]
    split
    · rw [there]
      exact ⟨_, rfl, ⟨serves.fees, serves.nonce, serves.send⟩⟩
    · exact ⟨e, there, serves⟩
  · exact ⟨e, there, serves⟩

end Net.Serves

/-! ## Questions about accounts -/

namespace Endpoint

/-- The reply to question number `k` about a nonce, counted from now on. -/
def nonceReply (e : Endpoint) (k : Nat) (a : Address) : Answer Nat :=
  (e.nonce.script.entry (e.nonce.calls + k)).answer "" (e.accepted.count a)

/-- The reply to question number `k` about a balance, counted from now on. -/
def balanceReply (e : Endpoint) (k : Nat) : Answer Nat :=
  (e.balance.script.entry (e.balance.calls + k)).answer "" usualBalance

/-- An endpoint that answers every question about an account, sooner or later and with whatever result. -/
structure Informs (e : Endpoint) : Prop where
  nonce : ∀ n, (e.nonce.script.entry n).hang = false
  balance : ∀ n, (e.balance.script.entry n).hang = false

theorem Informs.exists_nonceReply {e : Endpoint} (informs : e.Informs) (k : Nat) (a : Address) :
    ∃ result, (e.nonceReply k a).result = some result :=
  Entry.exists_result (informs.nonce _) _ _

theorem Informs.exists_balanceReply {e : Endpoint} (informs : e.Informs) (k : Nat) :
    ∃ result, (e.balanceReply k).result = some result :=
  Entry.exists_result (informs.balance _) _ _

end Endpoint

end TxLoad.Network
