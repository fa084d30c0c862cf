import TxLoad.Crypto.Keccak
import TxLoad.Text.Quoted

/-!
# Addresses of accounts

- `Address` is a string of exactly twenty bytes;
- `Address.checksummed` writes it with the mixed-case checksum, `Address.lower` in lower case;
- `Address.read` reads forty hexadecimal digits of any case behind an optional `0x`, and says what is wrong
  with any other text.
-/

namespace TxLoad

/-- Twenty bytes that name an account. -/
structure Address where
  toBytes : Bytes
  length_toBytes : toBytes.length = 20
deriving DecidableEq

namespace Address

/-- The address of twenty zero bytes. -/
def zero : Address := ⟨List.replicate 20 0, by decide⟩

instance : Inhabited Address := ⟨zero⟩

/-- The last twenty of at least twenty bytes. -/
def ofLast (bs : Bytes) (h : 20 ≤ bs.length) : Address :=
  ⟨bs.drop (bs.length - 20), by simp only [List.length_drop]; omega⟩

/-- The address of a public key: the end of the key's digest. -/
def ofPublicKey (key : Bytes) : Address :=
  ofLast (Crypto.Keccak.digest key) (by simp)

/-- The address in lower-case hexadecimal behind `0x`. -/
def lower (a : Address) : String := Bytes.hex a.toBytes

/-- A letter is raised when the digit of the same position in the checksum is eight or more. -/
def raise (digit mark : Char) : Char :=
  if 8 ≤ (Bytes.hexDigit? mark).getD 0 then digit.toUpper else digit

/-- The address in hexadecimal behind `0x`, with the letters' case as checksum. -/
def checksummed (a : Address) : String :=
  let digits := Bytes.hexDigits a.toBytes
  let marks := Bytes.hexDigits (Crypto.Keccak.digest (digits.map fun c => UInt8.ofNat c.toNat))
  "0x" ++ .ofList (List.zipWith raise digits marks)

/-! ## Reading -/

/-- What can be wrong with the hexadecimal text of a fixed number of bytes. -/
inductive HexFault where
  | oddLength
  | wrongLength
  | badDigit (byte : UInt8) (position : Nat)
deriving DecidableEq, Repr

/-- What the fault says; a byte is shown as the character of the same number. -/
def HexFault.message : HexFault → String
  | .oddLength => "odd number of digits"
  | .wrongLength => "invalid string length"
  | .badDigit b i => "invalid character " ++ Text.quotedMark (Char.ofNat b.toNat) ++ " at position " ++ toString i

/-- The first of the bytes, counted from `i`, that is no hexadecimal digit. -/
def firstBadDigit? : Nat → Bytes → Option HexFault
  | _, [] => none
  | i, b :: bs =>
    if (Bytes.hexDigit? (Char.ofNat b.toNat)).isSome then firstBadDigit? (i + 1) bs else some (.badDigit b i)

/-- Reads exactly `count` bytes of hexadecimal behind an optional `0x`. -/
def readHex (count : Nat) (s : String) : Except HexFault Bytes :=
  let digits := Bytes.withoutMark s.toList
  let text := Bytes.ofText (.ofList digits)
  if text.length % 2 = 1 then .error .oddLength
  else if text.length ≠ 2 * count then .error .wrongLength
  else match firstBadDigit? 0 text, Bytes.ofHexDigits? digits with
    | none, some bs => .ok bs
    | some fault, _ => .error fault
    | none, none => .error .wrongLength

/-- Reads an address. -/
def read (s : String) : Except HexFault Address :=
  match readHex 20 s with
  | .error e => .error e
  | .ok bs => if h : bs.length = 20 then .ok ⟨bs, h⟩ else .error .wrongLength

end Address

end TxLoad
