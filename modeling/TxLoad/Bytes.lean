/-!
# Byte strings

- `Bytes.ofNat`: a number as big-endian bytes of a fixed width; `Bytes.minimal`: as few bytes as it needs;
- `Bytes.toNat`: the number that big-endian bytes denote (`toNat_ofNat`, `toNat_minimal`);
- `Bytes.hex`, `Bytes.ofHex?`: the text of bytes, two lower-case hexadecimal digits each.
-/

namespace TxLoad

/-- A string of bytes. -/
abbrev Bytes := List UInt8

namespace Bytes

/-! ## Numbers as bytes -/

/-- The number that big-endian bytes denote. -/
def toNat (bs : Bytes) : Nat := bs.foldl (fun n b => n * 256 + b.toNat) 0

/-- A number as big-endian bytes of the given width; higher digits are dropped. -/
def ofNat : Nat → Nat → Bytes
  | 0, _ => []
  | width + 1, n => ofNat width (n / 256) ++ [UInt8.ofNat n]

/-- A number as big-endian bytes without leading zeros; zero is the empty string. -/
def minimal (n : Nat) : Bytes :=
  if n = 0 then [] else minimal (n / 256) ++ [UInt8.ofNat n]
termination_by n

theorem toNat_append_singleton (bs : Bytes) (b : UInt8) : toNat (bs ++ [b]) = toNat bs * 256 + b.toNat := by
  simp [toNat]

@[simp] theorem length_ofNat (width n : Nat) : (ofNat width n).length = width := by
  induction width generalizing n with
  | zero => rfl
  | succ width ih => simp [ofNat, ih]

/-- Fixed-width bytes denote the number they were made of, when it fits. -/
theorem toNat_ofNat (width n : Nat) (h : n < Nat.pow 256 width) : toNat (ofNat width n) = n := by
  induction width generalizing n with
  | zero =>
    have hn : n = 0 := Nat.lt_one_iff.1 h
    simp [ofNat, toNat, hn]
  | succ width ih =>
    have hq : n / 256 < Nat.pow 256 width := (Nat.div_lt_iff_lt_mul (by decide)).2 h
    rw [ofNat, toNat_append_singleton, ih _ hq, UInt8.toNat_ofNat']
    omega

/-- Bytes without leading zeros denote the number they were made of. -/
@[simp] theorem toNat_minimal (n : Nat) : toNat (minimal n) = n := by
  induction n using minimal.induct with
  | case1 => simp [minimal, toNat]
  | case2 n h ih =>
    rw [minimal, if_neg h, toNat_append_singleton, ih, UInt8.toNat_ofNat']
    omega

/-! ## Hexadecimal text -/

/-- Bytes as lower-case hexadecimal digits, two for each. -/
def hexDigits (bs : Bytes) : List Char :=
  bs.flatMap fun b => [Nat.digitChar (b.toNat / 16), Nat.digitChar (b.toNat % 16)]

/-- Bytes as lower-case hexadecimal behind `0x`. -/
def hex (bs : Bytes) : String := "0x" ++ .ofList (hexDigits bs)

/-- The value of a hexadecimal digit of either case. -/
def hexDigit? (c : Char) : Option Nat :=
  if '0' ≤ c && c ≤ '9' then some (c.toNat - 48)
  else if 'a' ≤ c && c ≤ 'f' then some (c.toNat - 87)
  else if 'A' ≤ c && c ≤ 'F' then some (c.toNat - 55)
  else none

/-- The bytes that pairs of hexadecimal digits denote. -/
def ofHexDigits? : List Char → Option Bytes
  | [] => some []
  | [_] => none
  | h :: l :: rest => do
    let h ← hexDigit? h
    let l ← hexDigit? l
    let rest ← ofHexDigits? rest
    return UInt8.ofNat (16 * h + l) :: rest

/-- The digits behind a leading `0x` or `0X`, if there is one. -/
def withoutMark : List Char → List Char
  | '0' :: 'x' :: cs => cs
  | '0' :: 'X' :: cs => cs
  | cs => cs

/-- The bytes of a hexadecimal text, with or without a leading `0x`. -/
def ofHex? (s : String) : Option Bytes := ofHexDigits? (withoutMark s.toList)

/-- The text in UTF-8. -/
def ofText (s : String) : Bytes := s.toUTF8.toList

/-! ## Blocks -/

/-- The string in blocks of `size` bytes; the last block may be shorter. -/
def blocks (size : Nat) (bs : Bytes) : List Bytes :=
  if _h : size = 0 ∨ bs = [] then []
  else bs.take size :: blocks size (bs.drop size)
termination_by bs.length
decreasing_by
  have := List.length_pos_iff.mpr (fun e => _h (.inr e))
  simp only [List.length_drop]; omega

/-- Bytes combined position by position; the shorter string ends the result. -/
def xor (a b : Bytes) : Bytes := List.zipWith (· ^^^ ·) a b

end Bytes

end TxLoad
