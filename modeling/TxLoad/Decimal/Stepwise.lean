import TxLoad.Decimal.Binary64

/-!
# Decimal numbers read in steps

A number written in decimal digits can be read fast: as many leading digits as fit a 64-bit word are taken as a
natural number, and the fraction nearest to it is scaled by powers of ten that are themselves rounded. Each step rounds,
so what comes of it need not be the fraction nearest to the number.

- `Binary64.takeWord` takes as many digits as fit a word;
- `Binary64.scale?` scales a fraction; it refuses what is too large;
- `Binary64.readInSteps?` reads a number from its digits in front of the point, behind it, and its exponent.
-/

namespace TxLoad

namespace Binary64

/-- The digits that a word takes in, and the digits behind them. -/
def takeWord : Nat → List Char → Nat × List Char
  | n, [] => (n, [])
  | n, c :: cs =>
    let next := 10 * n + (c.toNat - 48)
    if next ≤ 0xffffffffffffffff then takeWord next cs else (n, c :: cs)

/-- A positive number as a quotient of natural numbers. -/
def quotient (mantissa : Nat) (exponent : Int) : Nat × Nat :=
  (mantissa * .pow 2 exponent.toNat, .pow 2 (-exponent).toNat)

/-- The greatest power of ten that is used in one step. -/
def longestStep : Nat := 308

/-- A number multiplied by the fraction nearest to a power of ten, or divided by it. -/
def step (x : Binary64) (up : Bool) (places : Nat) : Binary64 :=
  match x, ofDecimal false 1 places with
  | finite negative m e, finite _ m' e' =>
    let (num, den) := quotient m e
    let (num', den') := quotient m' e'
    if up then ofQuotient negative (num * num') (den * den') else ofQuotient negative (num * den') (den * num')
  | x, _ => x

/-- A number scaled down by ten to the power `places`. -/
def scaleDown (x : Binary64) (places : Nat) : Binary64 :=
  if x.isZero || places ≤ longestStep then step x false (min places longestStep)
  else scaleDown (step x false longestStep) (places - longestStep)
termination_by places
decreasing_by
  simp only [Bool.or_eq_true, decide_eq_true_eq, not_or] at *
  have : longestStep = 308 := rfl
  omega

/-- A number scaled by ten to the power `places`; `none` if it gets too large. -/
def scale? (x : Binary64) (places : Int) : Option Binary64 :=
  if places < 0 then some (scaleDown x (-places).toNat)
  else if x.isZero then some x
  else if longestStep < places then none
  else match step x true places.toNat with
    | infinite _ => none
    | y => some y

/-- Reads a number in steps: digits in front of the point, behind it, and an exponent. Digits in front of the point
that do not fit a word count as zeros, those behind the point not at all. -/
def readInSteps? (negative : Bool) (whole fraction : List Char) (exponent : Int) : Option Binary64 :=
  let (n, rest) := takeWord 0 whole
  let (n, unread) := takeWord n fraction
  let places : Int := rest.length - (fraction.length - unread.length : Nat) + exponent
  scale? (ofQuotient negative n 1) places

end Binary64

end TxLoad
