import TxLoad.Confirmation
import TxLoad.Network.Script
import TxLoad.Transaction

/-!
# Endpoints of a simulation

- `Endpoint` is a node with scripted answers to each kind of call; it remembers from whom it accepted transactions;
- the calls (`Endpoint.suggestFees`, …) take the next entry of their script;
- `Journal` holds the calls that finished, in order.
-/

namespace TxLoad.Network

/-- A node with scripted answers. -/
structure Endpoint where
  name : String
  chainId : ScriptState Nat
  fees : ScriptState (Nat × Nat)
  nonce : ScriptState Nat
  balance : ScriptState Nat
  send : ScriptState Unit
  receipt : ScriptState Confirmation
  health : ScriptState Unit
  accepted : List Address

namespace Endpoint

/-- The fee cap and the tip that a node suggests when its script states none. -/
def usualFees : Nat × Nat := (30 * Wei.perGwei, 1500000000)

/-- The balance that a node reports when its script states none: one ether. -/
def usualBalance : Nat := 1000000000000000000

/-- The chain that a node is on when its script states none. -/
def usualChain : Nat := 1337

/-- The receipt that a node reports when its script states none. -/
def usualReceipt : Confirmation := ⟨1, true, Payload.transferGas, some Wei.perGwei, none, none⟩

/-- The endpoint in words, for diagnosis. -/
def describe (e : Endpoint) : String := Failure.withParts "ChainEndpoint" [("name", Text.quoted e.name)]

/-- Asks for the chain. -/
def askChainId (e : Endpoint) : Answer Nat × Endpoint :=
  let (entry, script) := e.chainId.next
  (entry.answer "" usualChain, { e with chainId := script })

/-- Asks for a fee cap and a tip. -/
def askFees (e : Endpoint) : Answer (Nat × Nat) × Endpoint :=
  let (entry, script) := e.fees.next
  (entry.answer "" usualFees, { e with fees := script })

/-- Asks for the next nonce of an address; usually that is the number of transactions accepted from it. -/
def askNonce (e : Endpoint) (a : Address) : Answer Nat × Endpoint :=
  let (entry, script) := e.nonce.next
  (entry.answer "" (e.accepted.count a), { e with nonce := script })

/-- Asks for the balance of an address. -/
def askBalance (e : Endpoint) (_a : Address) : Answer Nat × Endpoint :=
  let (entry, script) := e.balance.next
  (entry.answer "" usualBalance, { e with balance := script })

/-- Sends a transaction. -/
def submit (e : Endpoint) (t : SignedTransaction) : Answer Unit × Endpoint :=
  let (entry, script) := e.send.next
  (entry.answer t.hashText (), { e with send := script })

/-- Waits for the receipt of a transaction. -/
def watch (e : Endpoint) (t : SignedTransaction) : Answer Confirmation × Endpoint :=
  let (entry, script) := e.receipt.next
  (entry.answer t.hashText usualReceipt, { e with receipt := script })

/-- Checks the node's health. -/
def check (e : Endpoint) : Answer Unit × Endpoint :=
  let (entry, script) := e.health.next
  (entry.answer "" (), { e with health := script })

end Endpoint

/-! ## The journal -/

/-- What a finished call was. -/
inductive Action where
  | askedFees
  | askedNonce (a : Address)
  | askedBalance (a : Address)
  | sent (ok : Bool) (t : SignedTransaction)
  | watched (ok : Bool) (t : SignedTransaction)
  | checked (ok : Bool)

/-- A finished call: at which endpoint, and when. -/
structure Note where
  endpoint : String
  time : Nat
  action : Action

/-- The endpoints of a simulation and the calls that finished, oldest first. -/
structure Net where
  endpoints : Array Endpoint
  journal : Array Note

namespace Net

/-- The name of an endpoint. -/
def name (n : Net) (i : Nat) : String := (n.endpoints[i]?.map (·.name)).getD ""

/-- Makes a call at an endpoint; a call at no endpoint never ends. -/
def ask {α : Type} (n : Net) (i : Nat) (call : Endpoint → Answer α × Endpoint) : Answer α × Net :=
  match n.endpoints[i]? with
  | some e => let (answer, e) := call e; (answer, { n with endpoints := n.endpoints.setIfInBounds i e })
  | none => (⟨0, none⟩, n)

/-- Notes a finished call; an endpoint remembers the sender of a transaction it accepted. -/
def finish (n : Net) (i time : Nat) (action : Action) : Net :=
  let journal := n.journal.push ⟨n.name i, time, action⟩
  match action with
  | .sent true t =>
    { endpoints := n.endpoints.modify i fun e => { e with accepted := t.sender :: e.accepted }
      journal := journal }
  | _ => { n with journal := journal }

end Net

end TxLoad.Network
