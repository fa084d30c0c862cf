import TxLoad.Wallet.Account
import TxLoad.Proofs.Transaction.Encoding

/-!
# Raw transactions carry what was asked

- `Transaction.Fits` and `Signature.Fits`: every number has the width of its field; signatures that keys give do
  (`fits_of_sign?`);
- `Transaction.decode?_raw` and `Transaction.raw_of_decode?`: the bytes that read as a transaction with its signature
  are its raw bytes, and no others; so raw bytes determine both (`Transaction.raw_injective`);
- `Account.assembleBy` is `Account.assemble` with the signer left open; `Account.Carries` is what a signed transaction
  has to do with account, payload and quote, and `Account.assemble_carries` that it does.
-/

namespace TxLoad

/-! ## Signatures -/

namespace Crypto.Secp256k1

/-- Each number of a signature takes 32 bytes at most. -/
structure Signature.Fits (s : Signature) : Prop where
  r : s.r < 256 ^ 32
  s : s.s < 256 ^ 32

/-- A signature is made of numbers up to the order. -/
theorem fits_of_signWith? {secret digest nonce : Nat} {s : Signature}
    (signed : signWith? secret digest nonce = some s) : s.Fits := by
  have pos : 0 < order := by decide
  have small : order < 256 ^ 32 := by decide
  have reduced (n : Nat) : n % order < 256 ^ 32 := Nat.lt_trans (Nat.mod_lt n pos) small
  have opposite (n : Nat) : order - n < 256 ^ 32 := Nat.lt_of_le_of_lt (Nat.sub_le order n) small
  simp only [signWith?, Option.bind_eq_bind, Option.bind_none, Option.ite_none_left_eq_some, Option.bind_eq_some_iff]
    at signed
  obtain ⟨-, ⟨x, y⟩, -, -, chosen⟩ := signed
  split_ifs at chosen with high
  · cases chosen
    exact ⟨reduced x, opposite _⟩
  · cases chosen
    exact ⟨reduced x, reduced _⟩

/-- Every try makes such a signature. -/
theorem fits_of_signFrom? {secret digest tries : Nat} {g : NonceSource} {s : Signature}
    (signed : signFrom? secret digest tries g = some s) : s.Fits := by
  induction tries generalizing g with
  | zero => cases signed
  | succ tries ih =>
    rw [signFrom?] at signed
    cases first : signWith? secret digest (Bytes.toNat g.advance.value) with
    | some found =>
      rw [first] at signed
      cases signed
      exact fits_of_signWith? first
    | none =>
      rw [first] at signed
      exact ih signed

theorem fits_of_sign? {secret : Nat} {digest : Bytes} {s : Signature} (signed : sign? secret digest = some s) :
    s.Fits :=
  fits_of_signFrom? signed

end Crypto.Secp256k1

namespace Transaction

open Rlp (Item encodeAll)

/-! ## Fields -/

/-- Every number fits the bytes of its field, and the input is one that a machine can hold. -/
structure Fits (t : Transaction) : Prop where
  chainId : t.chainId < 256 ^ 8
  nonce : t.nonce < 256 ^ 8
  tipCap : t.tipCap < 256 ^ 16
  feeCap : t.feeCap < 256 ^ 16
  gas : t.gas < 256 ^ 8
  value : t.value < 256 ^ 32
  input : t.input.length < 2 ^ 63

theorem number?_number {width n : Nat} (fits : n < 256 ^ width) : number? width (.number n) = some n := by
  have shape : (Bytes.minimal n).head? ≠ some 0 ∧ (Bytes.minimal n).length ≤ width :=
    ⟨Bytes.head?_minimal n, Bytes.length_minimal_le fits⟩
  rw [Item.number, number?, if_pos shape, Bytes.toNat_minimal]

/-- A field that is read as a number is written as that number. -/
theorem eq_number_of_number? {width n : Nat} {item : Item} (read : number? width item = some n) : item = .number n := by
  cases item with
  | list items => cases read
  | text bs =>
    simp only [number?, Option.ite_none_right_eq_some, Option.some.injEq] at read
    obtain ⟨⟨sharp, -⟩, rfl⟩ := read
    rw [Item.number, Bytes.minimal_toNat sharp]

theorem destination?_destinationBytes (d : Destination) : destination? (.text (destinationBytes d)) = some d := by
  cases d with
  | create => rfl
  | call a =>
    have filled : a.toBytes ≠ [] := fun empty => by simpa [empty] using a.length_toBytes
    rw [destinationBytes, destination?, if_neg filled, dif_pos a.length_toBytes]

/-- A field that is read as a destination names it. -/
theorem eq_text_of_destination? {item : Item} {d : Destination} (read : destination? item = some d) :
    item = .text (destinationBytes d) := by
  cases item with
  | list items => cases read
  | text bs =>
    rw [destination?] at read
    split_ifs at read with empty twenty
    · cases read
      rw [empty, destinationBytes]
    · cases read
      rfl

theorem eq_text_of_bytes? {item : Item} {bs : Bytes} (read : bytes? item = some bs) : item = .text bs := by
  cases item with
  | list items => cases read
  | text bs' =>
    cases read
    rfl

section Fields

variable {t : Transaction} {s : Signature}

/-- The twelve fields give the transaction and its signature back. -/
theorem ofFields?_fields (fits : t.Fits) (signature : s.Fits) :
    ofFields? (t.fields ++ signatureFields s) = some (t, s) := by
  have odd : s.odd.toNat < 256 ^ 1 := by cases s.odd <;> decide
  have parity : ¬ 1 < s.odd.toNat := by cases s.odd <;> decide
  simp [fields, signatureFields, ofFields?, number?_number fits.chainId, number?_number fits.nonce,
    number?_number fits.tipCap, number?_number fits.feeCap, number?_number fits.gas,
    destination?_destinationBytes, number?_number fits.value, bytes?, number?_number odd, number?_number signature.r,
    number?_number signature.s, parity]

/-- Fields that read as a transaction and a signature are their twelve fields. -/
theorem fields_of_ofFields? {items : List Item} (read : ofFields? items = some (t, s)) :
    items = t.fields ++ signatureFields s := by
  unfold ofFields? at read
  split at read
  next =>
    simp only [Option.bind_eq_bind, Option.bind_none, Option.bind_eq_some_iff, Option.ite_none_left_eq_some,
      Option.pure_def, Option.some.injEq, Prod.mk.injEq] at read
    obtain ⟨_, chainId, _, nonce, _, tipCap, _, feeCap, _, gas, _, destination, _, value, _, input, parity, odd, low,
      _, r, _, s, rfl, rfl⟩ := read
    -- the parity is kept as a truth value, and only zero and one are read as one
    have bit : (decide (parity = 1)).toNat = parity := by
      have : parity = 0 ∨ parity = 1 := by omega
      rcases this with rfl | rfl <;> rfl
    rw [eq_number_of_number? chainId, eq_number_of_number? nonce, eq_number_of_number? tipCap,
      eq_number_of_number? feeCap, eq_number_of_number? gas, eq_text_of_destination? destination,
      eq_number_of_number? value, eq_text_of_bytes? input, eq_number_of_number? odd, eq_number_of_number? r,
      eq_number_of_number? s, fields, signatureFields, bit]
    rfl
  next => cases read

/-! ## Raw bytes -/

/-- A field takes nine bytes besides its width at most. -/
theorem length_number_le {width n : Nat} (narrow : width ≤ 32) (fits : n < 256 ^ width) :
    (Item.number n).encode.length ≤ width + 9 := by
  have digits := Bytes.length_minimal_le fits
  have whole := Rlp.length_encodeText_le (Bytes.minimal n) (by omega)
  rw [Item.number, Item.encode]
  omega

theorem length_destinationBytes_le (d : Destination) : (destinationBytes d).length ≤ 20 := by
  cases d with
  | create => exact Nat.zero_le _
  | call a => exact Nat.le_of_eq a.length_toBytes

/-- Eight bytes hold the number of bytes of a transaction. -/
theorem length_encode_lt (fits : t.Fits) (signature : s.Fits) :
    (Item.list (t.fields ++ signatureFields s)).encode.length < 256 ^ 8 := by
  have short := fits.input
  -- the empty list, and eleven strings of 173 bytes besides the input, with nine bytes in front of each at most
  have contents : (encodeAll (t.fields ++ signatureFields s)).length ≤ t.input.length + 273 := by
    have twenty := length_destinationBytes_le t.destination
    have odd : s.odd.toNat < 256 ^ 1 := by cases s.odd <;> decide
    have chainId := length_number_le (by decide) fits.chainId
    have nonce := length_number_le (by decide) fits.nonce
    have tipCap := length_number_le (by decide) fits.tipCap
    have feeCap := length_number_le (by decide) fits.feeCap
    have gas := length_number_le (by decide) fits.gas
    have destination := Rlp.length_encodeText_le (destinationBytes t.destination) (by omega)
    have value := length_number_le (by decide) fits.value
    have input := Rlp.length_encodeText_le t.input (by omega)
    have parity := length_number_le (by decide) odd
    have r := length_number_le (by decide) signature.r
    have s' := length_number_le (by decide) signature.s
    have storage : (Item.list []).encode.length = 1 := by
      rw [Item.encode]
      decide
    simp only [fields, signatureFields, List.cons_append, List.nil_append, Rlp.encodeAll, List.length_append,
      List.length_nil, storage]
    rw [Item.encode, Item.encode]
    omega
  have header := Rlp.length_header_le (n := (encodeAll (t.fields ++ signatureFields s)).length) 0xc0 (by omega)
  rw [Item.encode, List.length_append]
  omega

theorem decode?_raw (fits : t.Fits) (signature : s.Fits) : decode? (t.raw s) = some (t, s) := by
  rw [raw, decode?, if_pos rfl, Item.decode?_encode (length_encode_lt fits signature)]
  exact ofFields?_fields fits signature

/-- No other bytes are read so. -/
theorem raw_of_decode? {bs : Bytes} (read : decode? bs = some (t, s)) : bs = t.raw s := by
  cases bs with
  | nil => cases read
  | cons b bs =>
    rw [decode?] at read
    split_ifs at read with kind
    split at read
    next items whole =>
      rw [kind, Item.encode_of_decode? whole, fields_of_ofFields? read, raw]
    next => cases read

end Fields

/-- Raw bytes determine the transaction and the signature. -/
theorem raw_injective {t t' : Transaction} {s s' : Signature} (fits : t.Fits) (signature : s.Fits) (fits' : t'.Fits)
    (signature' : s'.Fits) (same : t.raw s = t'.raw s') : t = t' ∧ s = s' := by
  have read := decode?_raw fits signature
  rw [same, decode?_raw fits' signature'] at read
  cases read
  exact ⟨rfl, rfl⟩

end Transaction

/-! ## What is assembled -/

/-- Whatever answers digests with signatures that fit. -/
structure Signer where
  answer : Bytes → Option Signature
  fits : ∀ {digest s}, answer digest = some s → s.Fits

/-- Any signature that fits can be the answer: a signer that always gives it. -/
def Signer.always (s : Signature) (h : s.Fits) : Signer where
  answer _ := some s
  fits same := Option.some.inj same ▸ h

/-- A key answers with its signature. -/
def SigningKey.signer (key : SigningKey) : Signer :=
  ⟨Crypto.Secp256k1.sign? key.secret, Crypto.Secp256k1.fits_of_sign?⟩

namespace Account

open Rlp (Item)

variable {a : Account} {p : Payload} {q : Fee.Quote}

/-- `assemble` with the signer left open. -/
def assembleBy (signer : Signer) (a : Account) (p : Payload) (q : Fee.Quote) :
    Account × Except Failure SignedTransaction :=
  if p.gas = 0 then (a, .error noGas)
  else (a.reserve, (a.draft p q).withAnswer a.address (signer.answer (Crypto.Keccak.digest (a.draft p q).unsigned)))

theorem assemble_eq (a : Account) (p : Payload) (q : Fee.Quote) :
    a.assemble p q = assembleBy a.key.signer a p q := rfl

/-- A signed transaction carries what was asked: its bytes are the kind and the list of the twelve fields, they and no
others read as those fields, and the hash is their digest. -/
structure Carries (a : Account) (p : Payload) (q : Fee.Quote) (s : Signature) (signed : SignedTransaction) : Prop where
  raw : signed.raw = 0x02 :: (Item.list [
    .number a.chainId, .number a.nextNonce, .number q.tipCap, .number q.feeCap, .number p.gas,
    .text (Transaction.destinationBytes p.destination), .number p.value, .text p.input, .list [],
    .number s.odd.toNat, .number s.r, .number s.s]).encode
  read : ∀ bs, bs = signed.raw ↔ Transaction.decode? bs = some ({
    chainId := a.chainId
    nonce := a.nextNonce
    tipCap := q.tipCap
    feeCap := q.feeCap
    gas := p.gas
    destination := p.destination
    value := p.value
    input := p.input }, s)
  hash : signed.hash = Crypto.Keccak.digest signed.raw
  sender : signed.sender = a.address

/-- The draft with any signature carries what was asked. -/
theorem carries_withSignature (fits : (a.draft p q).Fits) {s : Signature} (signature : s.Fits) :
    Carries a p q s ((a.draft p q).withSignature a.address s) where
  raw := rfl
  read bs := by
    constructor
    · rintro rfl
      exact Transaction.decode?_raw fits signature
    · exact fun read => Transaction.raw_of_decode? read
  hash := rfl
  sender := rfl

theorem assembleBy_of_answer (gas : 0 < p.gas) {signer : Signer} {s : Signature}
    (answer : signer.answer (Crypto.Keccak.digest (a.draft p q).unsigned) = some s) :
    assembleBy signer a p q = (a.reserve, .ok ((a.draft p q).withSignature a.address s)) := by
  rw [assembleBy, if_neg (Nat.ne_of_gt gas), answer, Transaction.withAnswer]

/-- What was assembled has a signature that fits, and is the draft with it. -/
theorem exists_signature {signer : Signer} {signed : SignedTransaction}
    (made : (assembleBy signer a p q).2 = .ok signed) :
    ∃ s : Signature, s.Fits ∧ signed.raw = (a.draft p q).raw s := by
  unfold assembleBy at made
  split_ifs at made
  cases answer : signer.answer (Crypto.Keccak.digest (a.draft p q).unsigned) with
  | none => simp [answer, Transaction.withAnswer] at made
  | some s =>
    rw [answer] at made
    cases made
    exact ⟨s, signer.fits answer, rfl⟩

/-- **The raw transaction carries what was asked.** Whatever signature the signer answers with, a payload with gas is
assembled into a transaction that carries it, with the account's next nonce, which is used up; the signer of an account
is its key; and what is assembled for other fields has other raw bytes, whoever signs the two. -/
theorem assemble_carries (gas : 0 < p.gas) (fits : (a.draft p q).Fits) :
    (∀ (signer : Signer) (s : Signature),
      signer.answer (Crypto.Keccak.digest (a.draft p q).unsigned) = some s →
        ∃ signed, assembleBy signer a p q = (a.reserve, .ok signed) ∧ Carries a p q s signed) ∧
      a.assemble p q = assembleBy a.key.signer a p q ∧
      ∀ (signer signer' : Signer) (a' : Account) (p' : Payload) (q' : Fee.Quote) (signed signed' : SignedTransaction),
        (a'.draft p' q').Fits → (assembleBy signer a p q).2 = .ok signed →
          (assembleBy signer' a' p' q').2 = .ok signed' →
            a.draft p q ≠ a'.draft p' q' → signed.raw ≠ signed'.raw := by
  refine ⟨fun signer s answer => ?carries, assemble_eq a p q, ?differ⟩
  case carries => exact ⟨_, assembleBy_of_answer gas answer, carries_withSignature fits (signer.fits answer)⟩
  case differ =>
    intro signer signer' a' p' q' signed signed' fits' made made' differ same
    obtain ⟨s, signature, raw⟩ := exists_signature made
    obtain ⟨s', signature', raw'⟩ := exists_signature made'
    exact differ (Transaction.raw_injective fits signature fits' signature' (raw ▸ raw' ▸ same)).1

/-- A creation with three bytes of input, signed with the numbers one and two. -/
theorem assemble_carries_creation :
    let a : Account := ⟨⟨1, by decide, by decide⟩, .zero, 1337, 7, 0⟩
    let p : Payload := ⟨.create, 5, 60000, [1, 2, 3]⟩
    let q : Fee.Quote := ⟨20000000000, 2000000000⟩
    0 < p.gas ∧ (a.draft p q).Fits ∧
      ∃ signed, assembleBy (.always ⟨1, 2, true⟩ ⟨by decide, by decide⟩) a p q = (a.reserve, .ok signed) ∧
        Carries a p q ⟨1, 2, true⟩ signed := by
  intro a p q
  have gas : 0 < p.gas := by decide
  have fits : (a.draft p q).Fits :=
    ⟨by decide, by decide, by decide, by decide, by decide, by decide, by decide⟩
  exact ⟨gas, fits, (assemble_carries gas fits).1 _ _ rfl⟩

end Account

end TxLoad
