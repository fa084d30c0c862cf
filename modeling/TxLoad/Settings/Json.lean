import TxLoad.Amount
import TxLoad.Decimal.Stepwise
import TxLoad.Settings.Value

/-!
# Settings files in JSON

`Json.parse?` reads a text as one value. Integers of 64 bits are kept exactly, all other numbers as binary fractions
that are read in steps. Of several entries of one name in a table, the last one counts.
-/

namespace TxLoad.Json

/-- The white space between the parts of a value. -/
def isSpace (c : Char) : Bool := c = ' ' || c = '\n' || c = '\t' || c = '\r'

/-- The text behind leading white space. -/
def skip (cs : List Char) : List Char := cs.dropWhile isSpace

/-- The number that four hexadecimal digits denote, and the text behind them. -/
def hex4? : List Char → Option (Nat × List Char)
  | a :: b :: c :: d :: rest => do
    let a ← Bytes.hexDigit? a
    let b ← Bytes.hexDigit? b
    let c ← Bytes.hexDigit? c
    let d ← Bytes.hexDigit? d
    return (((a * 16 + b) * 16 + c) * 16 + d, rest)
  | _ => none

/-- The character of a letter behind a backslash. -/
def escaped? : Char → Option Char
  | '"' => some '"'
  | '\\' => some '\\'
  | '/' => some '/'
  | 'b' => some '\x08'
  | 'f' => some '\x0c'
  | 'n' => some '\n'
  | 'r' => some '\r'
  | 't' => some '\t'
  | _ => none

/-- Reads a character written as a number; a pair of surrogates is one character. -/
def unicode? (cs : List Char) : Option (Char × List Char) := do
  let (n, rest) ← hex4? cs
  if 0xDC00 ≤ n ∧ n < 0xE000 then none
  else if 0xD800 ≤ n ∧ n < 0xDC00 then
    match rest with
    | '\\' :: 'u' :: rest =>
      let (low, rest) ← hex4? rest
      if 0xDC00 ≤ low ∧ low < 0xE000 then some (Char.ofNat (0x10000 + (n - 0xD800) * 0x400 + (low - 0xDC00)), rest)
      else none
    | _ => none
  else some (Char.ofNat n, rest)

/-- Reads a string behind its opening quotation mark, `fuel` characters at most. -/
def string? : Nat → List Char → Option (List Char × List Char)
  | 0, _ => none
  | _ + 1, [] => none
  | fuel + 1, c :: cs =>
    if c = '"' then some ([], cs)
    else if c = '\\' then
      match cs with
      | 'u' :: cs => do
        let (c, cs) ← unicode? cs
        let (rest, cs) ← string? fuel cs
        return (c :: rest, cs)
      | e :: cs => do
        let c ← escaped? e
        let (rest, cs) ← string? fuel cs
        return (c :: rest, cs)
      | [] => none
    else if c.toNat < 0x20 then none
    else do
      let (rest, cs) ← string? fuel cs
      return (c :: rest, cs)

/-- The value of a row of digits. -/
def ofDigits (cs : List Char) : Nat := cs.foldl (fun n c => 10 * n + (c.toNat - 48)) 0

/-- The integer of a row of digits, if it fits 64 bits, with a sign or without. -/
def integer? (negative : Bool) (digits : List Char) : Option Int :=
  let n := ofDigits digits
  if negative then if 0 < n ∧ n ≤ 0x8000000000000000 then some (-(n : Int)) else none
  else if n ≤ word64Max then some n else none

/-- The number with the given parts: an integer if it fits 64 bits, or a binary fraction that is read in steps. A number
that is too large for one is refused. -/
def numberOf? (negative : Bool) (whole fraction : List Char) (exponent : Option Int) : Option Value :=
  let real := (Binary64.readInSteps? negative whole fraction (exponent.getD 0)).map Value.real
  if fraction.isEmpty && exponent.isNone then ((integer? negative whole).map Value.integer).or real else real

/-- Reads the exponent of a number, if there is one. -/
def exponent? : List Char → Option (Option Int × List Char)
  | c :: cs =>
    if c = 'e' || c = 'E' then
      let (negative, cs) := match cs with
        | '-' :: cs => (true, cs)
        | '+' :: cs => (false, cs)
        | cs => (false, cs)
      match cs.span Char.isDigit with
      | ([], _) => none
      | (digits, rest) =>
        let n : Int := ofDigits digits
        some (some (if negative then -n else n), rest)
    else some (none, c :: cs)
  | [] => some (none, [])

/-- Reads the fraction of a number, if there is one. -/
def fraction? : List Char → Option (List Char × List Char)
  | '.' :: cs =>
    match cs.span Char.isDigit with
    | ([], _) => none
    | (digits, rest) => some (digits, rest)
  | cs => some ([], cs)

/-- Reads a number. -/
def number? (cs : List Char) : Option (Value × List Char) := do
  let (negative, cs) := match cs with
    | '-' :: cs => (true, cs)
    | cs => (false, cs)
  let (whole, cs) := cs.span Char.isDigit
  if whole.isEmpty || (1 < whole.length && whole.head? = some '0') then none
  let (fraction, cs) ← fraction? cs
  let (exponent, cs) ← exponent? cs
  let v ← numberOf? negative whole fraction exponent
  return (v, cs)

/-- How deep lists and tables can stand in each other. -/
def deepest : Nat := 127

mutual

/-- Reads a value; `fuel` bounds its parts, `depth` how deep lists and tables can stand in it. -/
def value? : Nat → Nat → List Char → Option (Value × List Char)
  | 0, _, _ => none
  | fuel + 1, depth, cs =>
    match skip cs, depth with
    | 'n' :: 'u' :: 'l' :: 'l' :: rest, _ => some (.null, rest)
    | 't' :: 'r' :: 'u' :: 'e' :: rest, _ => some (.flag true, rest)
    | 'f' :: 'a' :: 'l' :: 's' :: 'e' :: rest, _ => some (.flag false, rest)
    | '"' :: rest, _ => (string? (rest.length + 1) rest).map fun (s, rest) => (.text (.ofList s), rest)
    | '[' :: rest, depth + 1 =>
      match skip rest with
      | ']' :: rest => some (.list [], rest)
      | rest => (elements? fuel depth rest).map fun (vs, rest) => (.list vs, rest)
    | '\x7b' :: rest, depth + 1 =>
      match skip rest with
      | '\x7d' :: rest => some (.table [], rest)
      | rest => (entries? fuel depth rest).map fun (es, rest) => (.table es, rest)
    | cs, _ => number? cs

/-- Reads the elements of a list up to its end. -/
def elements? : Nat → Nat → List Char → Option (List Value × List Char)
  | 0, _, _ => none
  | fuel + 1, depth, cs => do
    let (v, cs) ← value? fuel depth cs
    match skip cs with
    | ',' :: cs =>
      let (vs, cs) ← elements? fuel depth cs
      return (v :: vs, cs)
    | ']' :: cs => return ([v], cs)
    | _ => none

/-- Reads the entries of a table up to its end. -/
def entries? : Nat → Nat → List Char → Option (List (String × Value) × List Char)
  | 0, _, _ => none
  | fuel + 1, depth, cs => do
    match skip cs with
    | '"' :: cs =>
      let (name, cs) ← string? (cs.length + 1) cs
      match skip cs with
      | ':' :: cs =>
        let (v, cs) ← value? fuel depth cs
        match skip cs with
        | ',' :: cs =>
          let (es, cs) ← entries? fuel depth cs
          return ((.ofList name, v) :: es, cs)
        | '\x7d' :: cs => return ([(.ofList name, v)], cs)
        | _ => none
      | _ => none
    | _ => none

end

/-- Reads a text as one value. -/
def parse? (s : String) : Option Value :=
  let cs := s.toList
  match value? (2 * cs.length + 2) deepest cs with
  | some (v, rest) => if (skip rest).isEmpty then some v else none
  | none => none

end TxLoad.Json
