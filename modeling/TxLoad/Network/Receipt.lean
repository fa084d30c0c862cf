import TxLoad.Confirmation
import TxLoad.Network.Node

/-!
# Looking for a receipt

A node is asked for the receipt of a transaction again and again, with waits between.

- `Receipt` is what the node tells of a mined transaction, and `Receipt.confirmation` what is made of it;
- `Search` is how far the asking has come: it is over with the first receipt, or with the fifth failure in a row;
- `Polling` is a search with its clock: `Polling.step` is one lookup and the wait behind it, `Polling.after` are several;
- `Polling.step_of_ended`: no lookup is taken any more when the search is over.
-/

namespace TxLoad.Network

/-- What a node tells of a mined transaction. -/
structure Receipt where
  block : Option Nat
  success : Bool
  gasUsed : Nat
  gasPrice : Nat
  blobGasUsed : Option Nat
  blobGasPrice : Option Nat
deriving DecidableEq, Repr

/-- The confirmation that a receipt is; without a block it is in block zero. -/
def Receipt.confirmation (r : Receipt) : Confirmation where
  block := r.block.getD 0
  success := r.success
  gasUsed := r.gasUsed
  gasPrice := some r.gasPrice
  blobGasUsed := r.blobGasUsed
  blobGasPrice := r.blobGasPrice

/-- One lookup for a receipt: how long it takes, and whether it fails, finds nothing yet, or finds the receipt. -/
structure Lookup where
  took : Nat
  answer : Except RequestFault (Option Receipt)

/-- How far the search for a receipt has come: after how many failures in a row, or with what result it is over. -/
inductive Search where
  | looking (failures : Nat)
  | ended (result : Except Failure Confirmation)

namespace Search

/-- The failures in a row that end a search. -/
def maxFailures : Nat := 5

/-- The failure of a search that ended without a receipt, after so many failures in a row. -/
def lost (n : Node) (t : SignedTransaction) (failures : Nat) (fault : RequestFault) : Failure :=
  .connection (n.name ++ ": receipt lookup for " ++ t.hashText ++ " failed " ++ toString failures ++ " times: " ++
    fault.message)

/-- The search after one more answer. -/
def hear (n : Node) (t : SignedTransaction) (s : Search) (answer : Except RequestFault (Option Receipt)) : Search :=
  match s, answer with
  | looking _, .ok (some r) => ended (.ok r.confirmation)
  | looking _, .ok none => looking 0
  | looking failures, .error fault =>
    if maxFailures ≤ failures + 1 then ended (.error (lost n t (failures + 1) fault)) else looking (failures + 1)
  | ended result, _ => ended result

/-- The result of a search that is over. -/
def result? : Search → Option (Except Failure Confirmation)
  | looking _ => none
  | ended result => some result

/-- What is said about an answer. -/
def log (n : Node) (t : SignedTransaction) (s : Search) (answer : Except RequestFault (Option Receipt)) :
    List Log.Entry :=
  match answer, s.hear n t answer with
  | .error fault, looking _ =>
    [⟨"rpc", .debug, "Receipt lookup error; retrying",
      [("rpc", .text n.name), ("hash", .text t.hashText), ("error", .text fault.message)]⟩]
  | _, _ => []

/-- The waits asked for before the next lookup: none when the search is over. -/
def waits (n : Node) : Search → List Nat
  | looking _ => [n.wait]
  | ended _ => []

end Search

/-- A search with its clock: when its lookups began, which waits it asked for, and what was said. -/
structure Polling where
  search : Search
  now : Nat
  lookups : List Nat
  waits : List Nat
  log : List Log.Entry

namespace Polling

/-- A search that begins at the moment `since`. -/
def start (since : Nat) : Polling := ⟨.looking 0, since, [], [], []⟩

/-- The search after one more lookup and the wait behind it; when it is over there are no more lookups. -/
def step (n : Node) (t : SignedTransaction) (l : Polling) (lookup : Lookup) : Polling :=
  match l.search with
  | .ended _ => l
  | .looking _ =>
    let search := l.search.hear n t lookup.answer
    { search := search
      now := l.now + lookup.took + ((search.waits n).map Wait.bounded).foldl (· + ·) 0
      lookups := l.lookups ++ [l.now]
      waits := l.waits ++ search.waits n
      log := l.log ++ l.search.log n t lookup.answer }

/-- The search after `count` lookups, if `lookups` says how each goes; they are counted from zero. -/
def after (n : Node) (t : SignedTransaction) (l : Polling) (lookups : Nat → Lookup) (count : Nat) : Polling :=
  ((List.range count).map lookups).foldl (step n t) l

theorem step_of_ended {n : Node} {t : SignedTransaction} {l : Polling} {result : Except Failure Confirmation}
    (finished : l.search = .ended result) (lookup : Lookup) : l.step n t lookup = l := by
  rw [step, finished]

end Polling

end TxLoad.Network
