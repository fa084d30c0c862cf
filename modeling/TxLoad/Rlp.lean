import TxLoad.Bytes

/-!
# Recursive length encoding

- `Item` is a byte string or a list of items;
- `Item.encode` writes it: a short string or list by its length in the first byte, a long one by the length of
  its length;
- `Item.decode?` reads one item from the front of some bytes and returns the rest; it refuses lengths that could
  be written shorter.
-/

namespace TxLoad.Rlp

/-- A byte string or a list of items. -/
inductive Item where
  | text (bytes : Bytes)
  | list (items : List Item)

/-- The first bytes of an item whose contents have the given length; `offset` is `0x80` for strings and `0xc0` for
lists. -/
def header (offset length : Nat) : Bytes :=
  if length ≤ 55 then [UInt8.ofNat (offset + length)]
  else
    let size := Bytes.minimal length
    UInt8.ofNat (offset + 55 + size.length) :: size

/-- A byte string; a single byte below `0x80` stands for itself. -/
def encodeText : Bytes → Bytes
  | [b] => if b < 0x80 then [b] else header 0x80 1 ++ [b]
  | bs => header 0x80 bs.length ++ bs

mutual

/-- The encoding of an item. -/
def Item.encode : Item → Bytes
  | .text bytes => encodeText bytes
  | .list items => let contents := encodeAll items; header 0xc0 contents.length ++ contents

/-- The encodings of several items, one behind the other. -/
def encodeAll : List Item → Bytes
  | [] => []
  | item :: items => item.encode ++ encodeAll items

end

/-- A number as a byte string without leading zeros. -/
def Item.number (n : Nat) : Item := .text (Bytes.minimal n)

/-! ## Reading -/

/-- What the first bytes announce: a string or a list, and the length of its contents. -/
inductive Announced where
  | text (length : Nat)
  | list (length : Nat)

/-- The length that `size` bytes denote, if it could not be written shorter. -/
def longLength? (size : Nat) (bs : Bytes) : Option (Nat × Bytes) :=
  let digits := bs.take size
  let length := Bytes.toNat digits
  if digits.length = size ∧ digits.head? ≠ some 0 ∧ 55 < length then some (length, bs.drop size) else none

/-- Reads the first bytes of an item. -/
def announced? : Bytes → Option (Announced × Bytes)
  | [] => none
  | b :: bs =>
    let n := b.toNat
    if n < 0x80 then some (.text 1, b :: bs)
    else if n ≤ 0xb7 then
      if n = 0x81 ∧ (bs.headD 0x80) < 0x80 then none else some (.text (n - 0x80), bs)
    else if n ≤ 0xbf then (longLength? (n - 0xb7) bs).map fun (length, rest) => (.text length, rest)
    else if n ≤ 0xf7 then some (.list (n - 0xc0), bs)
    else (longLength? (n - 0xf7) bs).map fun (length, rest) => (.list length, rest)

mutual

/-- Reads one item from the front; `fuel` bounds the depth and the number of items. -/
def decodeWith : Nat → Bytes → Option (Item × Bytes)
  | 0, _ => none
  | fuel + 1, bs =>
    match announced? bs with
    | none => none
    | some (.text length, rest) =>
      if length ≤ rest.length then some (.text (rest.take length), rest.drop length) else none
    | some (.list length, rest) =>
      if length ≤ rest.length then
        (decodeAllWith fuel (rest.take length)).map fun items => (.list items, rest.drop length)
      else none

/-- Reads items until no byte is left. -/
def decodeAllWith : Nat → Bytes → Option (List Item)
  | _, [] => some []
  | 0, _ => none
  | fuel + 1, bs =>
    match decodeWith fuel bs with
    | none => none
    | some (item, rest) => (decodeAllWith fuel rest).map (item :: ·)

end

/-- Reads one item that takes all the bytes. -/
def Item.decode? (bs : Bytes) : Option Item :=
  match decodeWith (2 * bs.length + 2) bs with
  | some (item, []) => some item
  | _ => none

end TxLoad.Rlp
