import TxLoad.Log.Entry
import TxLoad.Transaction

/-!
# Accounts

An account is a key on one chain, with what is remembered of its state there: the next nonce to use, and the
balance. Nonces are handed out in order (`Account.reserve`); balances move with confirmed spends and receipts of
value (`Account.debit`, `Account.credit`).

- `Account.assemble` turns a payload and a quote into a signed transaction, and uses up one nonce unless the payload
  is refused.
-/

namespace TxLoad

/-- A key on one chain, with its next nonce and its balance as far as they are known. -/
structure Account where
  key : SigningKey
  address : Address
  chainId : Nat
  nextNonce : Nat
  balance : Nat

namespace Account

/-- The account of a key, of which nothing is known yet. -/
def ofKey (key : SigningKey) (chainId : Nat) : Account := ⟨key, key.address, chainId, 0, 0⟩

/-- The account after its next nonce was handed out. -/
def reserve (a : Account) : Account := { a with nextNonce := a.nextNonce + 1 }

/-- The account after a spend; the balance stops at zero. -/
def debit (a : Account) (amount : Nat) : Account := { a with balance := Wei.minus a.balance amount }

/-- The account after it received value; the balance stops at the greatest 256-bit word. -/
def credit (a : Account) (amount : Nat) : Account := { a with balance := Wei.plus a.balance amount }

/-- The account with a known nonce and balance. -/
def withState (a : Account) (nonce : Nat) (balance : Nat) : Account := { a with nextNonce := nonce, balance := balance }

/-- The transaction for a payload with the account's next nonce. -/
def draft (a : Account) (p : Payload) (q : Fee.Quote) : Transaction where
  chainId := a.chainId
  nonce := a.nextNonce
  tipCap := q.tipCap
  feeCap := q.feeCap
  gas := p.gas
  destination := p.destination
  value := p.value
  input := p.input

/-- The failure of a payload without gas. -/
def noGas : Failure := .payload "Payload gas limit is zero"

/-- The account after a payload was made into a transaction, and that transaction; a payload without gas is refused
before a nonce is used up. -/
def assemble (a : Account) (p : Payload) (q : Fee.Quote) : Account × Except Failure SignedTransaction :=
  if p.gas = 0 then (a, .error noGas) else (a.reserve, (a.draft p q).sign a.key a.address)

/-! ## What is said -/

/-- What is said when nonce and balance were read from a node. -/
def syncedLog (a : Account) (rpc : String) : Log.Entry :=
  ⟨"wallet", .debug, "Account synced", [
    ("address", .text a.address.checksummed),
    ("nonce", .number a.nextNonce),
    ("balance", .number a.balance),
    ("rpc", .text rpc)]⟩

/-- What is said when the nonce alone was read again. -/
def resyncedLog (a : Account) : Log.Entry :=
  ⟨"wallet", .info, "Nonce resynced", [("address", .text a.address.checksummed), ("nonce", .number a.nextNonce)]⟩

/-- The account in words, for diagnosis. -/
def describe (a : Account) : String :=
  Failure.withParts "Account" [("address", a.address.lower), ("chain_id", toString a.chainId),
    ("next_nonce", toString a.nextNonce), ("balance", toString a.balance)]

end Account

end TxLoad
