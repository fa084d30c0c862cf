import TxLoad.Log.Entry
import TxLoad.Transaction

/-!
# Relays

A relay takes signed transactions for a rollup and passes them on by its own way. A transaction is handed over once;
what the relay says decides whether it counts as submitted.

- `Relay.ofAddress` reads the relay's address once more in the way in which it is configured;
- `Relay.request` is what is sent, `Relay.judge` what is made of the answer.
-/

namespace TxLoad

/-- A relay that takes transactions for a rollup. -/
structure Relay where
  url : String
  rollup : String
deriving DecidableEq, Repr

namespace Relay

/-- The relay at an address; the address has to be absolute. -/
def ofAddress (address rollup : String) : Except Failure Relay :=
  let url := Url.normalize address
  match Url.host url with
  | .ok _ => .ok ⟨url, rollup⟩
  | .error fault => .error (.config (.badRelayAddress address fault))

/-- The method that hands a transaction over. -/
def method : String := "composer_submitRollupTransaction"

/-- What is sent to a relay: the number of the request, counted from one, the rollup, and the bytes. -/
structure Request where
  number : Nat
  rollup : String
  data : String
deriving DecidableEq, Repr

/-- The request that hands a transaction over. -/
def request (r : Relay) (number : Nat) (t : SignedTransaction) : Request := ⟨number, r.rollup, Bytes.hex t.raw⟩

/-- What a relay says to a request. -/
inductive Answer where
  | unreachable (reason : String)
  | status (text body : String)
  | undecodable (reason : String)
  | refused (code : Int) (message : String)
  | accepted
deriving DecidableEq, Repr

/-- Whether a transaction counts as submitted after the relay's answer. -/
def judge (r : Relay) (t : SignedTransaction) : Answer → Except Failure Unit
  | .unreachable reason => .error (.relay ("POST " ++ r.url ++ " failed: " ++ reason))
  | .status text body => .error (.relay (r.url ++ " returned " ++ text ++ ": " ++ body))
  | .undecodable reason => .error (.relay ("Undecodable relay response: " ++ reason))
  | .refused code message =>
    .error (.relay ("rejected " ++ t.hashText ++ ": " ++ message ++ " (" ++ toString code ++ ")"))
  | .accepted => .ok ()

/-- What is said when a transaction was handed over. -/
def handedLog (r : Relay) (t : SignedTransaction) : Log.Entry :=
  ⟨"relay", .debug, "Transaction handed to relay", [("rollup", .text r.rollup), ("hash", .text t.hashText)]⟩

end Relay

end TxLoad
