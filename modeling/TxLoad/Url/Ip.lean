import TxLoad.Bytes
import TxLoad.Text.Blank

/-!
# Numeric hosts

- `v4?`: one to four numbers in decimal, octal or hexadecimal, the last of which fills the remaining bytes;
- `v6?`: eight groups of sixteen bits, one run of which may be left out, with an optional decimal tail;
- `showV4`, `showV6`: their canonical texts.
-/

namespace TxLoad.Url.Ip

/-- The pieces between points. -/
def pieces (cs : List Char) : List (List Char) := Text.splitOnAny (· = '.') cs

/-- The value of digits in a base up to sixteen, if all of them are digits of it. -/
def valueIn? (radix : Nat) (cs : List Char) : Option Nat :=
  cs.foldlM (fun n c => (Bytes.hexDigit? c).bind fun d => if d < radix then some (n * radix + d) else none) 0

/-- One number of an address: hexadecimal behind `0x`, octal behind `0`, else decimal. -/
def number? : List Char → Option Nat
  | [] => none
  | '0' :: 'x' :: cs => valueIn? 16 cs
  | '0' :: 'X' :: cs => valueIn? 16 cs
  | '0' :: c :: cs => valueIn? 8 (c :: cs)
  | cs => valueIn? 10 cs

/-- The pieces without an empty last one. -/
def withoutEmptyLast (parts : List (List Char)) : List (List Char) :=
  if 1 < parts.length ∧ parts.getLast? = some [] then parts.dropLast else parts

/-- Whether a host has to be read as a numeric address: its last piece is a number. -/
def endsInNumber (cs : List Char) : Bool :=
  match (withoutEmptyLast (pieces cs)).getLast? with
  | none => false
  | some last => (!last.isEmpty && last.all Char.isDigit) || (number? last).isSome

/-- Reads an address of four bytes. -/
def v4? (cs : List Char) : Option Nat := do
  let numbers ← (withoutEmptyLast (pieces cs)).mapM number?
  let last ← numbers.getLast?
  let front := numbers.dropLast
  if 4 < numbers.length || front.any (255 < ·) || Nat.pow 256 (4 - front.length) ≤ last then none
  return (front.foldl (fun n b => n * 256 + b) 0) * Nat.pow 256 (4 - front.length) + last

/-- Four decimal numbers with points between. -/
def showV4 (n : Nat) : String :=
  ".".intercalate ([n / 0x1000000, n / 0x10000 % 256, n / 0x100 % 256, n % 256].map toString)

/-! ## Eight groups -/

/-- One decimal byte without leading zeros. -/
def byte? (cs : List Char) : Option Nat := do
  if cs.isEmpty || (1 < cs.length && cs.head? = some '0') then none
  let n ← valueIn? 10 cs
  if 255 < n then none else return n

/-- A group of up to four hexadecimal digits. -/
def group? (cs : List Char) : Option Nat :=
  if cs.isEmpty || 4 < cs.length then none else valueIn? 16 cs

/-- The groups of a row of pieces; the last piece may be a decimal address, which makes two groups. -/
def groups? : List (List Char) → Option (List Nat)
  | [] => some []
  | [piece] =>
    if piece.contains '.' then do
      let bytes ← (pieces piece).mapM byte?
      match bytes with
      | [a, b, c, d] => return [a * 256 + b, c * 256 + d]
      | _ => none
    else (group? piece).map ([·])
  | piece :: rest => do return (← group? piece) :: (← groups? rest)

/-- The pieces between colons; an empty text has none. -/
def colonPieces (cs : List Char) : List (List Char) :=
  if cs.isEmpty then [] else Text.splitOnAny (· = ':') cs

/-- The text in front of and behind the first double colon. -/
def atDoubleColon? : List Char → Option (List Char × List Char)
  | ':' :: ':' :: cs => some ([], cs)
  | [] => none
  | c :: cs => (atDoubleColon? cs).map fun (front, back) => (c :: front, back)

/-- Reads an address of eight groups. -/
def v6? (cs : List Char) : Option (List Nat) := do
  match atDoubleColon? cs with
  | none =>
    let all ← groups? (colonPieces cs)
    if all.length = 8 then return all else none
  | some (front, back) =>
    if (front.contains '.') then none
    let front ← groups? (colonPieces front)
    let back ← groups? (colonPieces back)
    if 7 < front.length + back.length then none
    return front ++ List.replicate (8 - front.length - back.length) 0 ++ back

/-- How many zeros the list starts with. -/
def zeroRun (groups : List Nat) : Nat := (groups.takeWhile (· = 0)).length

/-- The longest run of at least two zeros: where it starts and how long it is; the first of equal ones. -/
def longestRun (groups : List Nat) : Option (Nat × Nat) :=
  (List.range groups.length).foldl (fun best i =>
    let n := zeroRun (groups.drop i)
    if (best.map (·.2)).getD 1 < n then some (i, n) else best) none

/-- Groups in hexadecimal with colons between. -/
def showGroups (groups : List Nat) : String :=
  ":".intercalate (groups.map fun g => .ofList (Nat.toDigits 16 g))

/-- The address in brackets, its longest run of zeros left out. -/
def showV6 (groups : List Nat) : String :=
  match longestRun groups with
  | none => "[" ++ showGroups groups ++ "]"
  | some (i, n) => "[" ++ showGroups (groups.take i) ++ "::" ++ showGroups (groups.drop (i + n)) ++ "]"

end TxLoad.Url.Ip
