/-!
# Punycode

The ASCII form of a label with other characters: its ASCII characters, a hyphen, and the others as differences of
code point and position, in digits of base thirty-six with a sliding threshold.

- `encode` writes a label, `decode?` reads one;
- the digits of a difference end at the first one below its threshold, which is never zero (`threshold_pos`).
-/

namespace TxLoad.Url.Punycode

/-- The character of a digit: letters, then decimal digits. -/
def digitChar (d : Nat) : Char := if d < 26 then Char.ofNat (97 + d) else Char.ofNat (22 + d)

/-- The value of a digit's character. -/
def digit? (c : Char) : Option Nat :=
  if 'a' ≤ c && c ≤ 'z' then some (c.toNat - 97)
  else if 'A' ≤ c && c ≤ 'Z' then some (c.toNat - 65)
  else if '0' ≤ c && c ≤ '9' then some (c.toNat - 22)
  else none

/-- A digit below this value ends the number; `position` counts in steps of thirty-six. -/
def threshold (bias position : Nat) : Nat := max 1 (min 26 (position - bias))

theorem threshold_pos (bias position : Nat) : 0 < threshold bias position := by unfold threshold; omega

/-- Divides by thirty-five until the rest is small, and counts the divisions in steps of thirty-six. -/
def settle (delta steps : Nat) : Nat × Nat := if 455 < delta then settle (delta / 35) (steps + 36) else (delta, steps)
termination_by delta
decreasing_by omega

/-- The bias after a difference was written for the `count`-th character. -/
def nextBias (delta count : Nat) (first : Bool) : Nat :=
  let d := if first then delta / 700 else delta / 2
  let (rest, steps) := settle (d + d / count) 0
  steps + 36 * rest / (rest + 38)

/-- The digits of a difference. -/
def digits (bias position n : Nat) : List Char :=
  let t := threshold bias position
  if n < t then [digitChar n]
  else digitChar (t + (n - t) % (36 - t)) :: digits bias (position + 36) ((n - t) / (36 - t))
termination_by n
decreasing_by
  have := threshold_pos bias position
  exact Nat.lt_of_le_of_lt (Nat.div_le_self _ _) (by omega)

/-- What a writer remembers: the digits so far, the open difference, the bias, and how many characters are done. -/
structure Writer where
  out : List Char
  delta : Nat
  bias : Nat
  done : Nat

/-- One character of the label, while the characters of code point `n` are written. -/
def Writer.visit (ascii n : Nat) (w : Writer) (c : Char) : Writer :=
  if c.toNat < n then { w with delta := w.delta + 1 }
  else if c.toNat = n then
    { out := w.out ++ digits w.bias 36 w.delta
      delta := 0
      bias := nextBias w.delta (w.done + 1) (w.done = ascii)
      done := w.done + 1 }
  else w

/-- The characters of the given code points, in increasing order, are written; `next` is the least code point not
yet written. -/
def Writer.run (label : List Char) (ascii : Nat) : List Nat → Nat → Writer → Writer
  | [], _, w => w
  | n :: ns, next, w =>
    let opened := { w with delta := w.delta + (n - next) * (w.done + 1) }
    let w := label.foldl (Writer.visit ascii n) opened
    Writer.run label ascii ns (n + 1) { w with delta := w.delta + 1 }

/-- The ASCII form of a label, without the mark in front of it. -/
def encode (label : List Char) : List Char :=
  let ascii := label.filter (·.toNat < 128)
  let others := ((label.map Char.toNat).filter (128 ≤ ·)).mergeSort.eraseDups
  let lead := if ascii.isEmpty then [] else ascii ++ ['-']
  lead ++ (Writer.run label ascii.length others 128 ⟨[], 0, 72, ascii.length⟩).out

/-- Reads one difference; `weight` is the weight of the next digit. -/
def number? (bias : Nat) : List Char → (position weight n : Nat) → Option (Nat × List Char)
  | [], _, _, _ => none
  | c :: cs, position, weight, n => do
    let d ← digit? c
    let t := threshold bias position
    let n := n + d * weight
    if d < t then return (n, cs) else number? bias cs (position + 36) (weight * (36 - t)) n

/-- Reads the remaining differences and inserts their characters; `fuel` bounds their number. -/
def insertAll : Nat → List Char → (code index bias : Nat) → List Char → Option (List Char)
  | _, [], _, _, _, label => some label
  | 0, _, _, _, _, _ => none
  | fuel + 1, cs, code, index, bias, label => do
    let (n, rest) ← number? bias cs 36 1 index
    let count := label.length + 1
    let code := code + n / count
    if 0x10ffff < code || (0xd800 ≤ code && code ≤ 0xdfff) then none
    insertAll fuel rest code (n % count + 1) (nextBias (n - index) count (index = 0))
      (label.insertIdx (n % count) (Char.ofNat code))

/-- The label of an ASCII form, without the mark in front of it. -/
def decode? (form : List Char) : Option (List Char) :=
  match (form.reverse.span (· ≠ '-')) with
  | (tail, _ :: lead) => insertAll form.length tail.reverse 128 0 72 lead.reverse
  | (tail, []) => insertAll form.length tail.reverse 128 0 72 []

end TxLoad.Url.Punycode
