import TxLoad.Decimal.Binary64

/-!
# The fewest digits that read back

- `Binary64.digits` are the fewest decimal digits of a positive fraction that read back as the fraction, the nearest
  ones of that many;
- `Binary64.plain` writes them without an exponent, `Binary64.pointed` with a point in any case, `Binary64.scientific`
  with an exponent when the number is very large or very small.
-/

namespace TxLoad.Binary64

/-- Whether `digits * 10 ^ places` reads back as the fraction `m * 2 ^ e`. -/
def readsBack (m : Nat) (e : Int) (digits : Nat) (places : Int) : Bool :=
  ofQuotient false (digits * .pow 10 places.toNat) (.pow 10 (-places).toNat) = .finite false m e

/-- The decimal places in front of the point of `num / den`, which is not zero; fewer than none for a number below a
tenth. -/
def wholePlaces (num den : Nat) : Int :=
  if den ≤ num then (Nat.toDigits 10 (num / den)).length
  else
    let inverse := (Nat.toDigits 10 (den / num)).length
    if den < num * .pow 10 inverse then 1 - (inverse : Int)
    else if den = num * .pow 10 inverse then 1 - (inverse : Int)
    else -(inverse : Int)

/-- The digits on the grid of `10 ^ places` next to `num / den` that read back, if there are any; the nearer ones of
two, the lower ones of two that are equally near. -/
def onGrid? (m : Nat) (e : Int) (num den : Nat) (places : Int) : Option Nat :=
  let scaledNum := num * .pow 10 (-places).toNat
  let scaledDen := den * .pow 10 places.toNat
  let low := scaledNum / scaledDen
  let distance := scaledNum % scaledDen
  match readsBack m e low places, readsBack m e (low + 1) places with
  | true, true => some (if 2 * distance ≤ scaledDen then low else low + 1)
  | true, false => some low
  | false, true => some (low + 1)
  | false, false => none

/-- Digits without final zeros, and the places they are scaled by. -/
def trimZeros (digits : Nat) (places : Int) : Nat × Int :=
  if h : digits ≠ 0 ∧ digits % 10 = 0 then trimZeros (digits / 10) (places + 1) else (digits, places)
termination_by digits
decreasing_by omega

/-- The fewest digits of `m * 2 ^ e` that read back, and the places they are scaled by. -/
def digits (m : Nat) (e : Int) : Nat × Int :=
  if m = 0 then (0, 0)
  else
    let num := m * .pow 2 e.toNat
    let den := Nat.pow 2 (-e).toNat
    let whole := wholePlaces num den
    let found := (List.range 17).findSome? fun (n : Nat) =>
      let places := whole - (n + 1)
      (onGrid? m e num den places).map (trimZeros · places)
    found.getD (trimZeros (num / den) 0)

/-- Digits scaled by ten to the power `places`, without an exponent. -/
def positional (digits : Nat) (places : Int) : String :=
  let cs := Nat.toDigits 10 digits
  if digits = 0 then "0"
  else if 0 ≤ places then .ofList (cs ++ List.replicate places.toNat '0')
  else
    let fraction := (-places).toNat
    let cs := List.replicate (fraction + 1 - cs.length) '0' ++ cs
    .ofList (cs.take (cs.length - fraction)) ++ "." ++ .ofList (cs.drop (cs.length - fraction))

/-- The sign of a number. -/
def signed (negative : Bool) (s : String) : String := if negative then "-" ++ s else s

/-- The number without an exponent. -/
def plain : Binary64 → String
  | finite negative m e => let (d, places) := digits m e; signed negative (positional d places)
  | infinite negative => signed negative "inf"
  | undefined => "NaN"

/-- The number without an exponent, with a point in any case. -/
def pointed (x : Binary64) : String :=
  match x with
  | finite _ _ _ => if x.plain.contains '.' then x.plain else x.plain ++ ".0"
  | _ => x.plain

/-- An exponent with its sign. -/
def exponentText (exponent : Int) : String := if exponent < 0 then toString exponent else "+" ++ toString exponent

/-- The digits with a point behind the first, and an exponent. -/
def withExponent (cs : List Char) (exponent : Int) : String :=
  match cs with
  | [] => ""
  | [c] => c.toString ++ "e" ++ exponentText exponent
  | c :: cs => c.toString ++ "." ++ .ofList cs ++ "e" ++ exponentText exponent

/-- The number with a point, or with an exponent when it has more than sixteen places in front of the point or more
than five zeros behind it. -/
def scientific : Binary64 → String
  | finite negative m e =>
    let (d, places) := digits m e
    let cs := Nat.toDigits 10 d
    let whole : Int := cs.length + places
    signed negative <|
      if d = 0 then "0.0"
      else if 0 ≤ places ∧ whole ≤ 16 then positional d places ++ ".0"
      else if -5 < whole ∧ whole ≤ 16 then positional d places
      else withExponent cs (whole - 1)
  | infinite negative => signed negative "inf"
  | undefined => "NaN"

end TxLoad.Binary64
