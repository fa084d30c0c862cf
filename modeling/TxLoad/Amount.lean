import TxLoad.Text.Blank

/-!
# Amounts of wei

- Amounts are natural numbers of wei; balances and transferred values are words of 256 bits, gas prices words of 128
  bits, and the operations that keep them in range saturate (`Wei.plus`, `Wei.times`, `Wei.minus`);
- `Wei.read` reads a decimal number with an optional unit, and `Wei.Fault` says why it cannot; surplus fraction digits
  are cut off and a value that does not fit the word is refused;
- `Wei.gwei` writes an amount in gwei without trailing zeros, `Wei.gweiFixed` with nine decimals, `Wei.ether` with
  eighteen.
-/

namespace TxLoad

/-- The greatest value of a 64-bit word. -/
def word64Max : Nat := 0xffffffffffffffff

/-- The greatest value of a 128-bit word. -/
def word128Max : Nat := 0xffffffffffffffffffffffffffffffff

/-- The greatest value of a 256-bit word. -/
def word256Max : Nat := 0xffffffffffffffffffffffffffffffffffffffffffffffffffffffffffffffff

namespace Wei

/-- Wei in one gwei. -/
def perGwei : Nat := 1000000000

/-- The sum, or the greatest 256-bit word when it is larger. -/
def plus (a b : Nat) : Nat := min (a + b) word256Max

/-- The product, or the greatest 256-bit word when it is larger. -/
def times (a b : Nat) : Nat := min (a * b) word256Max

/-- The difference, or zero when it is negative. -/
def minus (a b : Nat) : Nat := a - b

/-! ## Units -/

/-- The units an amount can be written in. -/
inductive Denomination where
  | wei
  | gwei
  | ether
deriving DecidableEq, Repr

/-- How many decimal places one of the unit has in wei. -/
def Denomination.decimals : Denomination → Nat
  | .wei => 0
  | .gwei => 9
  | .ether => 18

/-- The endings that name a unit, in the order in which they are looked for. -/
def endings : List (List Char × Denomination) :=
  [("gwei".toList, .gwei), ("wei".toList, .wei), ("ether".toList, .ether), ("eth".toList, .ether)]

/-- The number in front of the first ending that fits, with its unit; a text without one is in ether. -/
def splitUnit (cs : List Char) : List Char × Denomination :=
  (endings.findSome? fun (ending, unit) => (Text.dropSuffix? ending cs).map (·, unit)).getD (cs, .ether)

/-! ## Reading -/

/-- Why a text is no amount. A text whose surplus places begin inside a character cannot be cut there: it is not merely
refused, the reading breaks off. -/
inductive Fault where
  | unreadable
  | tooLarge
  | insideCharacter
deriving DecidableEq, Repr

/-- The value of a decimal digit. -/
def digit? (c : Char) : Option Nat := if c.isDigit then some (c.toNat - '0'.toNat) else none

/-- The value of a row of decimal digits, among which underscores count for nothing; an empty row is zero. -/
def numeral? (cs : List Char) : Option Nat :=
  cs.foldlM (fun n c => if c = '_' then some n else (digit? c).map (10 * n + ·)) 0

/-- The number of bytes of the text in UTF-8. -/
def utf8Length (cs : List Char) : Nat := cs.foldl (fun n c => n + c.utf8Size) 0

/-- The leading characters that take exactly `n` bytes in UTF-8, if there are such. -/
def takeUtf8 : Nat → List Char → Option (List Char)
  | 0, _ => some []
  | _ + 1, [] => none
  | n + 1, c :: cs => if c.utf8Size ≤ n + 1 then (takeUtf8 (n + 1 - c.utf8Size) cs).map (c :: ·) else none

/-- The text without its first point, and how many bytes stand behind that point. -/
def removePoint (cs : List Char) : List Char × Nat :=
  match cs.span (· ≠ '.') with
  | (whole, _ :: fraction) => (whole ++ fraction, utf8Length fraction)
  | (whole, []) => (whole, 0)

/-- A number with a point, scaled by ten to the power `places`; bytes of the fraction beyond that many are dropped
unread. -/
def scaled (places : Nat) (cs : List Char) : Except Fault Nat :=
  let (digits, fraction) := removePoint cs
  if places < fraction then
    match takeUtf8 (utf8Length digits - (fraction - places)) digits with
    | some kept => (numeral? kept).elim (.error .unreadable) .ok
    | none => .error .insideCharacter
  else
    (numeral? digits).elim (.error .unreadable) fun n => .ok (n * .pow 10 (places - fraction))

/-- The value if it fits a 256-bit word. -/
def fit (n : Nat) : Except Fault Nat := if n ≤ word256Max then .ok n else .error .tooLarge

/-- Reads an amount such as `1.5`, `1.5eth`, `20 gwei` or `1000wei`; a number without a unit is in ether. -/
def read (s : String) : Except Fault Nat :=
  let (number, unit) := splitUnit (Text.trim (s.toList.map Char.toLower))
  match Text.trim number with
  | [] => .error .unreadable
  | '-' :: _ => .error .unreadable
  | cs => (scaled unit.decimals cs).bind fit

/-- The amount that a text is, if it is one. -/
def parse? (s : String) : Option Nat := (read s).toOption

/-! ## Writing -/

/-- The last `width` decimal digits of a number, leading zeros included. -/
def padded : Nat → Nat → List Char
  | 0, _ => []
  | width + 1, n => padded width (n / 10) ++ [Nat.digitChar (n % 10)]

/-- Without the final zeros. -/
def dropZeros (cs : List Char) : List Char := Text.dropWhileEnd (· = '0') cs

/-- An amount in gwei, with as many decimals as it needs. -/
def gwei (w : Nat) : String :=
  match dropZeros (padded 9 (w % perGwei)) with
  | [] => toString (w / perGwei)
  | fraction => toString (w / perGwei) ++ "." ++ .ofList fraction

/-- An amount with the given number of decimals, all of them written. -/
def fixed (places : Nat) (w : Nat) : String :=
  toString (w / .pow 10 places) ++ "." ++ .ofList (padded places (w % .pow 10 places))

/-- An amount in gwei with nine decimals. -/
def gweiFixed (w : Nat) : String := fixed 9 w

/-- An amount in ether with eighteen decimals. -/
def ether (w : Nat) : String := fixed 18 w

end Wei

end TxLoad
