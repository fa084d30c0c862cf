/-!
# Binary fractions of double precision

A configured number with a fraction is kept as a binary fraction of 53 significant bits, in exact arithmetic.

- `Binary64` is such a fraction, an infinity, or no number;
- `Binary64.ofDecimal` is the one nearest to a decimal number; of two that are equally near, the even one;
- `Binary64.toWord` is the nearest natural number, a half going up, within a 64-bit word.
-/

namespace TxLoad

/-- A binary fraction `mantissa * 2 ^ exponent` with a sign, an infinity, or no number. -/
inductive Binary64 where
  | finite (negative : Bool) (mantissa : Nat) (exponent : Int)
  | infinite (negative : Bool)
  | undefined
deriving DecidableEq, Repr

namespace Binary64

/-- The number of bits of a mantissa. -/
def precision : Nat := 53

/-- The least exponent. -/
def minExponent : Int := -1074

/-- The greatest exponent. -/
def maxExponent : Int := 971

/-- The quotient rounded to the nearest number, a half to the even neighbour. -/
def roundQuotient (num den : Nat) : Nat :=
  let q := num / den
  let r := num % den
  if den < 2 * r ∨ (2 * r = den ∧ q % 2 = 1) then q + 1 else q

/-- `num / den` divided by `2 ^ e` and rounded. -/
def scaled (num den : Nat) (e : Int) : Nat := roundQuotient (num * .pow 2 (-e).toNat) (den * .pow 2 e.toNat)

/-- The fraction nearest to `num / den`. -/
def ofQuotient (negative : Bool) (num den : Nat) : Binary64 :=
  if num = 0 then .finite negative 0 0
  else
    let top : Int := (num.log2 : Int) - den.log2
    let first := max (top - precision) minExponent
    let e := if .pow 2 precision ≤ scaled num den first then max (top - precision + 1) minExponent else first
    let m := scaled num den e
    let (m, e) := if m = .pow 2 precision then (.pow 2 (precision - 1), e + 1) else (m, e)
    if maxExponent < e then .infinite negative else .finite negative m e

/-- The decimal places beyond which every number is infinite or zero. -/
def maxPlaces : Int := 400

/-- The fraction nearest to `digits * 10 ^ places`. -/
def ofDecimal (negative : Bool) (digits : Nat) (places : Int) : Binary64 :=
  let size : Int := (Nat.toDigits 10 digits).length + places
  if digits = 0 ∨ size < -maxPlaces then .finite negative 0 0
  else if maxPlaces < size then .infinite negative
  else ofQuotient negative (digits * .pow 10 places.toNat) (.pow 10 (-places).toNat)

/-- The nearest natural number within a 64-bit word, a half going up; negative numbers and what is no number count
as zero. -/
def toWord : Binary64 → Nat
  | finite true _ _ => 0
  | finite false m e => min ((2 * m * .pow 2 e.toNat + .pow 2 (-e).toNat) / (2 * .pow 2 (-e).toNat)) 0xffffffffffffffff
  | infinite true => 0
  | infinite false => 0xffffffffffffffff
  | undefined => 0

/-- Whether the number is zero. -/
def isZero : Binary64 → Bool
  | finite _ m _ => m = 0
  | _ => false

end Binary64

end TxLoad
