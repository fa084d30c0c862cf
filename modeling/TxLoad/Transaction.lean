import TxLoad.Fee.Quote
import TxLoad.Key
import TxLoad.Rlp

/-!
# Transactions

- `Payload` is what is to be done, without a sender, a nonce or fees; `Payload.maxCost` bounds what it can cost;
- `Transaction` adds them; `Transaction.unsigned` and `Transaction.raw` are its bytes without and with a signature;
- `Transaction.sign` signs one with a key, into a `SignedTransaction` ready to be sent;
- `Transaction.decode?` reads raw bytes back.
-/

namespace TxLoad

/-- Whom a transaction addresses. -/
inductive Destination where
  | call (address : Address)
  | create
deriving DecidableEq

/-- What is to be done. -/
structure Payload where
  destination : Destination
  value : Nat
  gas : Nat
  input : Bytes
deriving DecidableEq

namespace Payload

/-- The gas of a plain transfer. -/
def transferGas : Nat := 21000

/-- A plain transfer of value. -/
def transfer (recipient : Address) (value : Nat) : Payload := ⟨.call recipient, value, transferGas, []⟩

/-- The most that the payload can cost at a fee cap. -/
def maxCost (p : Payload) (feeCap : Nat) : Nat := Wei.plus (Wei.times feeCap p.gas) p.value

end Payload

/-- A transaction with a base fee and a tip, before it is signed. -/
structure Transaction where
  chainId : Nat
  nonce : Nat
  tipCap : Nat
  feeCap : Nat
  gas : Nat
  destination : Destination
  value : Nat
  input : Bytes
deriving DecidableEq

/-- The signature of a transaction. -/
abbrev Signature := Crypto.Secp256k1.Signature

namespace Transaction

open Rlp (Item)

/-- The byte in front of the fields that tells the kind of transaction. -/
def kindByte : UInt8 := 0x02

/-- The bytes that name the destination: none for a creation. -/
def destinationBytes : Destination → Bytes
  | .call a => a.toBytes
  | .create => []

/-- The nine fields that are signed; the list of storage accesses is empty. -/
def fields (t : Transaction) : List Item := [
  .number t.chainId, .number t.nonce, .number t.tipCap, .number t.feeCap, .number t.gas,
  .text (destinationBytes t.destination), .number t.value, .text t.input, .list []]

/-- The three fields of a signature. -/
def signatureFields (s : Signature) : List Item := [.number s.odd.toNat, .number s.r, .number s.s]

/-- The bytes whose digest is signed. -/
def unsigned (t : Transaction) : Bytes := kindByte :: (Item.list t.fields).encode

/-- The bytes that are sent. -/
def raw (t : Transaction) (s : Signature) : Bytes :=
  kindByte :: (Item.list (t.fields ++ signatureFields s)).encode

/-! ## Reading -/

/-- A byte string as a number: no leading zeros, and no more than the given number of bytes. -/
def number? (width : Nat) : Item → Option Nat
  | .text bs => if bs.head? ≠ some 0 ∧ bs.length ≤ width then some (Bytes.toNat bs) else none
  | .list _ => none

/-- A byte string as a destination. -/
def destination? : Item → Option Destination
  | .text bs => if bs = [] then some .create else if h : bs.length = 20 then some (.call ⟨bs, h⟩) else none
  | .list _ => none

/-- The bytes of a string. -/
def bytes? : Item → Option Bytes
  | .text bs => some bs
  | .list _ => none

/-- The transaction and the signature of twelve fields. -/
def ofFields? : List Item → Option (Transaction × Signature)
  | [chainId, nonce, tipCap, feeCap, gas, destination, value, input, .list [], odd, r, s] => do
    let t : Transaction := {
      chainId := ← number? 8 chainId
      nonce := ← number? 8 nonce
      tipCap := ← number? 16 tipCap
      feeCap := ← number? 16 feeCap
      gas := ← number? 8 gas
      destination := ← destination? destination
      value := ← number? 32 value
      input := ← bytes? input }
    let parity ← number? 1 odd
    if 1 < parity then none
    return (t, ⟨← number? 32 r, ← number? 32 s, parity = 1⟩)
  | _ => none

/-- Reads raw bytes; all of them have to belong to the transaction. -/
def decode? : Bytes → Option (Transaction × Signature)
  | [] => none
  | b :: bs =>
    if b = kindByte then
      match Item.decode? bs with
      | some (.list items) => ofFields? items
      | _ => none
    else none

end Transaction

/-- A signed transaction, ready to be sent. -/
structure SignedTransaction where
  transaction : Transaction
  sender : Address
  raw : Bytes
  hash : Bytes
deriving DecidableEq

namespace SignedTransaction

/-- The hash as text. -/
def hashText (t : SignedTransaction) : String := Bytes.hex t.hash

/-- The nonce of the transaction. -/
def nonce (t : SignedTransaction) : Nat := t.transaction.nonce

/-- The value that the transaction moves. -/
def value (t : SignedTransaction) : Nat := t.transaction.value

end SignedTransaction

namespace Transaction

/-- A transaction with its signature; the hash is the digest of the raw bytes. -/
def withSignature (t : Transaction) (sender : Address) (s : Signature) : SignedTransaction :=
  let raw := t.raw s
  ⟨t, sender, raw, Crypto.Keccak.digest raw⟩

/-- A transaction with the signature that a key gave it, if it gave one. -/
def withAnswer (t : Transaction) (sender : Address) : Option Signature → Except Failure SignedTransaction
  | some s => .ok (t.withSignature sender s)
  | none => .error (.signing ("Sign tx failed: " ++ KeyFault.outOfRange.message))

/-- Signs a transaction. -/
def sign (t : Transaction) (key : SigningKey) (sender : Address) : Except Failure SignedTransaction :=
  t.withAnswer sender (Crypto.Secp256k1.sign? key.secret (Crypto.Keccak.digest t.unsigned))

/-- A signed transaction is the one that was to be signed. -/
theorem transaction_of_withAnswer {t : Transaction} {sender : Address} {answer : Option Signature}
    {signed : SignedTransaction} (h : t.withAnswer sender answer = .ok signed) : signed.transaction = t := by
  cases answer with
  | some s =>
    rw [← Except.ok.inj h]
    rfl
  | none => cases h

theorem transaction_of_sign {t : Transaction} {key : SigningKey} {sender : Address} {signed : SignedTransaction}
    (h : t.sign key sender = .ok signed) : signed.transaction = t :=
  transaction_of_withAnswer h

/-- The failure of a transaction that could not be signed. -/
def unsignable : Failure := .signing ("Sign tx failed: " ++ KeyFault.outOfRange.message)

theorem error_of_withAnswer {t : Transaction} {sender : Address} {answer : Option Signature} {e : Failure}
    (h : t.withAnswer sender answer = .error e) : e = unsignable := by
  cases answer with
  | some s => cases h
  | none => exact (Except.error.inj h).symm

theorem error_of_sign {t : Transaction} {key : SigningKey} {sender : Address} {e : Failure}
    (h : t.sign key sender = .error e) : e = unsignable :=
  error_of_withAnswer h

end Transaction

end TxLoad
