import TxLoad.Fee.History
import TxLoad.Log.Entry
import TxLoad.Retry
import TxLoad.Transaction

/-!
# Nodes

A node is asked over the network. What it says to each request comes from outside; here is what is made of it.

- `Node.ofUrls` names one node per configured URL, by its host, with the position behind it if there are several;
- `RequestFault` is why a request came to nothing;
- reading requests are made up to three times (`Node.read`), submissions only once (`Node.submitted`);
- `Node.FeeReplies.fees` derives fees from what the node says about recent blocks, or else about the latest one.
-/

namespace TxLoad.Network

/-- Why a request came to nothing. -/
inductive RequestFault where
  | unreachable (url : String)
  | status (code : Nat) (body : String)
  | refused (code : Int) (message : String)
deriving DecidableEq, Repr

/-- What the fault says. -/
def RequestFault.message : RequestFault → String
  | .unreachable url => "error sending request for url (" ++ url ++ ")"
  | .status code body =>
    "HTTP error " ++ toString code ++ (if body = "" then " with empty body" else " with body: " ++ body)
  | .refused code message => "server returned an error response: error code " ++ toString code ++ ": " ++ message

/-- A node, and how long to wait between two looks for a receipt, in milliseconds. -/
structure Node where
  name : String
  url : String
  wait : Nat
deriving DecidableEq, Repr

namespace Node

/-- The least wait between two looks for a receipt. -/
def leastWait : Nat := 100

/-- A node of the given name. -/
def named (name url : String) (wait : Nat) : Node := ⟨name, url, max wait leastWait⟩

/-! ## Configured nodes -/

/-- The name of a node at a URL without a host. -/
def hostless : String := "rpc"

/-- The name of the node at a position, counted from zero, of `count` configured ones. -/
def nameOf (host : Option String) (position count : Nat) : String :=
  let host := host.getD hostless
  if 1 < count then host ++ "-" ++ toString (position + 1) else host

/-- The nodes at the given URLs, of which the first has the given position, or the fault of the first URL that is
none. -/
def ofUrlsFrom (wait count : Nat) : Nat → List String → Except Failure (List Node)
  | _, [] => .ok []
  | position, url :: urls =>
    match Url.host url with
    | .error fault => .error (.config (.badNodeUrl url fault))
    | .ok host => (ofUrlsFrom wait count (position + 1) urls).map (named (nameOf host position count) url wait :: ·)

/-- One node per configured URL. -/
def ofUrls (urls : List String) (wait : Nat) : Except Failure (List Node) := ofUrlsFrom wait urls.length 0 urls

/-! ## Reading -/

/-- How often a reading request is made at most. -/
def readAttempts : Nat := 3

/-- The wait before the second attempt. -/
def readDelay : Nat := 100 * Wait.millisecond

/-- A reading request: what comes of its attempts. `ask` is how long an attempt takes, and its answer. -/
def read {α : Type} (method : String) (ask : Nat → Nat × Except RequestFault α) : Retry.Outcome RequestFault α :=
  Retry.attempts method RequestFault.message readAttempts readDelay ask

/-- The failure of a request that has no answer, with what was wanted. -/
def failure (wanted : String) (fault : RequestFault) : Failure := .connection (wanted ++ ": " ++ fault.message)

/-- The name of the request for the chain. -/
def chainMethod : String := "eth_chainId"

/-- The name of the request for a nonce. -/
def nonceMethod : String := "eth_getTransactionCount"

/-- The name of the request for a balance. -/
def balanceMethod : String := "eth_getBalance"

/-- What was wanted when the chain was asked for. -/
def chainWanted (n : Node) : String := n.name ++ ": chain_id failed"

/-- What was wanted when a nonce was asked for. -/
def nonceWanted (a : Address) : String := "Failed to fetch nonce for " ++ a.checksummed

/-- What was wanted when a balance was asked for. -/
def balanceWanted (a : Address) : String := "Failed to fetch balance for " ++ a.checksummed

/-- What was wanted when the node's health was checked. -/
def healthWanted (n : Node) : String := n.name ++ ": eth_blockNumber failed"

/-! ## Submitting -/

/-- The answer to a submission; a refusal is the transaction's. -/
def submitted (n : Node) (t : SignedTransaction) (answer : Except RequestFault Unit) : Except Failure Unit :=
  answer.mapError fun fault => .transaction t.hashText (n.name ++ " rejected tx: " ++ fault.message)

/-! ## Fees -/

/-- What a node says when it is asked about fees: about recent blocks, about the base fee of the latest block if it
states one, and about the usual tip. -/
structure FeeReplies where
  history : Except RequestFault Fee.History
  latest : Except RequestFault (Option Nat)
  tip : Except RequestFault Nat

namespace FeeReplies

/-- Why recent blocks do not tell the fees, if they do not: no answer, or an answer that tells too little. -/
def shortfall (t : FeeReplies) : Option (String × String) :=
  match t.history with
  | .error fault => some ("eth_feeHistory failed, falling back", fault.message)
  | .ok h =>
    match Fee.suggest h with
    | .error e => some ("Unusable fee history, falling back", e.message)
    | .ok _ => none

/-- What is said when recent blocks do not tell the fees. -/
def log (t : FeeReplies) : List Log.Entry :=
  t.shortfall.toList.map fun (message, error) => ⟨"gas", .debug, message, [("error", .text error)]⟩

/-- The fees from the latest block and the usual tip. -/
def fallback (t : FeeReplies) : Except Failure Fee.Suggestion := do
  let base ← t.latest.mapError (failure "Latest block fetch failed")
  let tip ← t.tip.mapError (failure "eth_maxPriorityFeePerGas failed")
  return Fee.suggestFrom base tip

/-- The fees that a node suggests. -/
def suggestion (t : FeeReplies) : Except Failure Fee.Suggestion :=
  match t.history with
  | .error _ => t.fallback
  | .ok h =>
    match Fee.suggest h with
    | .ok s => .ok s
    | .error _ => t.fallback

/-- The fee cap and the tip that a node suggests. -/
def fees (t : FeeReplies) : Except Failure (Nat × Nat) := t.suggestion.map fun s => (s.feeCap, s.tip)

end FeeReplies

end Node

end TxLoad.Network
