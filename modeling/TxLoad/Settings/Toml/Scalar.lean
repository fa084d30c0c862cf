import TxLoad.Settings.Toml.Moment

/-!
# Strings, numbers and words in TOML

- `string?` reads a string of any of the four kinds;
- `word` is the value of a bare word: a truth value, a moment, or a number. An integer has to fit 64 bits, and a number
  with a fraction has to be finite unless it says that it is not.
-/

namespace TxLoad.Toml

/-- What is wrong with a text. -/
inductive Fault where
  | malformed
  | tooLarge
  | tooSmall
deriving DecidableEq, Repr

/-- What the fault says. -/
def Fault.message : Fault → String
  | .malformed => "invalid document"
  | .tooLarge => "number too large to fit in target type"
  | .tooSmall => "number too small to fit in target type"

/-- The text behind blanks. -/
def skipBlanks (cs : List Char) : List Char := cs.dropWhile fun c => c = ' ' || c = '\t'

/-- Whether a character may stand in a comment or a string; line ends may not. -/
def isPrintable (c : Char) : Bool := c = '\t' || (0x20 ≤ c.toNat && c.toNat ≠ 0x7f)

/-- A line end, if one is next, and the text behind it. -/
def lineEnd? : List Char → Option (List Char × List Char)
  | '\n' :: cs => some (['\n'], cs)
  | '\r' :: '\n' :: cs => some (['\r', '\n'], cs)
  | _ => none

/-- The text behind blanks and line ends. -/
def skipSpace : List Char → List Char
  | ' ' :: cs | '\t' :: cs | '\n' :: cs => skipSpace cs
  | '\r' :: '\n' :: cs => skipSpace cs
  | cs => cs

/-! ## Strings -/

/-- The character of the given number, if there is one. -/
def scalar? (n : Nat) : Option Char := if h : n.isValidChar then some (Char.ofNatAux n h) else none

/-- The number that the next `count` hexadecimal digits denote. -/
def hexNumber? : Nat → Nat → List Char → Option (Nat × List Char)
  | 0, n, cs => some (n, cs)
  | _ + 1, _, [] => none
  | count + 1, n, c :: cs => (Bytes.hexDigit? c).bind fun d => hexNumber? count (16 * n + d) cs

/-- Reads a character given by its number in `count` hexadecimal digits. -/
def numbered? (count : Nat) (cs : List Char) : Option (Char × List Char) :=
  (hexNumber? count 0 cs).bind fun (n, cs) => (scalar? n).map (·, cs)

/-- Reads what stands behind a backslash. -/
def escape? : List Char → Option (Char × List Char)
  | 'u' :: cs => numbered? 4 cs
  | 'U' :: cs => numbered? 8 cs
  | 'x' :: cs => numbered? 2 cs
  | 'e' :: cs => some ('\x1b', cs)
  | '/' :: _ => none
  | c :: cs => (Json.escaped? c).map (·, cs)
  | [] => none

/-- Reads a string on one line behind its opening quotation mark. -/
def basic : Nat → List Char → Except Fault (List Char × List Char)
  | 0, _ => .error .malformed
  | _ + 1, [] => .error .malformed
  | fuel + 1, c :: cs =>
    if c = '"' then .ok ([], cs)
    else if c = '\\' then
      match escape? cs with
      | some (c, cs) => do
        let (rest, cs) ← basic fuel cs
        return (c :: rest, cs)
      | none => .error .malformed
    else if isPrintable c then do
      let (rest, cs) ← basic fuel cs
      return (c :: rest, cs)
    else .error .malformed

/-- Reads a string without escapes on one line behind its opening mark. -/
def literal (cs : List Char) : Except Fault (List Char × List Char) :=
  match cs.span fun c => c ≠ '\'' && isPrintable c with
  | (s, '\'' :: rest) => .ok (s, rest)
  | _ => .error .malformed

/-- Reads a string over several lines, up to three of its marks; up to two more of them belong to the string. Line ends
are kept as they are. -/
def lines (mark : Char) (escapes : Bool) : Nat → List Char → Except Fault (List Char × List Char)
  | 0, _ => .error .malformed
  | fuel + 1, cs =>
    let marks := (cs.takeWhile (· = mark)).length
    if 3 ≤ marks then
      if marks ≤ 5 then .ok (List.replicate (marks - 3) mark, cs.drop marks) else .error .malformed
    else match lineEnd? cs, cs with
      | some (ending, rest), _ => do
        let (s, rest) ← lines mark escapes fuel rest
        return (ending ++ s, rest)
      | none, '\\' :: rest =>
        if !escapes then do
          let (s, rest) ← lines mark escapes fuel rest
          return ('\\' :: s, rest)
        else match lineEnd? (skipBlanks rest) with
          | some (_, rest) => lines mark escapes fuel (skipSpace rest)
          | none =>
            match escape? rest with
            | some (c, rest) => do
              let (s, rest) ← lines mark escapes fuel rest
              return (c :: s, rest)
            | none => .error .malformed
      | none, c :: rest =>
        if isPrintable c then do
          let (s, rest) ← lines mark escapes fuel rest
          return (c :: s, rest)
        else .error .malformed
      | none, [] => .error .malformed

/-- The text behind a line end right at the start. -/
def withoutFirstLineEnd (cs : List Char) : List Char := ((lineEnd? cs).map (·.2)).getD cs

/-- Reads a string of any kind, if one is next. -/
def string? (cs : List Char) : Option (Except Fault (List Char × List Char)) :=
  match cs with
  | '"' :: '"' :: '"' :: cs => some (lines '"' true (cs.length + 1) (withoutFirstLineEnd cs))
  | '\'' :: '\'' :: '\'' :: cs => some (lines '\'' false (cs.length + 1) (withoutFirstLineEnd cs))
  | '"' :: cs => some (basic (cs.length + 1) cs)
  | '\'' :: cs => some (literal cs)
  | _ => none

/-! ## Numbers and words -/

/-- The digits of a number in which single underscores may stand between digits. -/
def withoutUnderscores? (isDigit : Char → Bool) : List Char → Option (List Char)
  | [] => none
  | [c] => if isDigit c then some [c] else none
  | c :: '_' :: cs => if isDigit c then (withoutUnderscores? isDigit cs).map (c :: ·) else none
  | c :: cs => if isDigit c then (withoutUnderscores? isDigit cs).map (c :: ·) else none

/-- The integer, if it fits 64 bits. -/
def integer (n : Int) : Except Fault Value :=
  if n < -0x8000000000000000 then .error .tooSmall
  else if 0x8000000000000000 ≤ n then .error .tooLarge
  else .ok (.integer n)

/-- The integer of digits in a base. -/
def based (base : Nat) (isDigit : Char → Bool) (cs : List Char) : Except Fault Value :=
  match withoutUnderscores? isDigit cs with
  | some digits => integer (digits.foldl (fun n c => base * n + (Bytes.hexDigit? c).getD 0) 0 : Nat)
  | none => .error .malformed

/-- The sign of a number, and what stands behind it. -/
def sign : List Char → Bool × List Char
  | '-' :: cs => (true, cs)
  | '+' :: cs => (false, cs)
  | cs => (false, cs)

/-- The decimal digits in front of the point. -/
def wholeDigits? (cs : List Char) : Option (List Char) :=
  (withoutUnderscores? Char.isDigit cs).filter fun digits => digits.length = 1 || digits.head? ≠ some '0'

/-- The number with a fraction, if it is finite. -/
def real (x : Binary64) : Except Fault Value :=
  match x with
  | .finite _ _ _ => .ok (.real x)
  | _ => .error .tooLarge

/-- A number in decimal digits, with or without a fraction and an exponent. -/
def decimal (negative : Bool) (cs : List Char) : Except Fault Value :=
  let isMark (c : Char) : Bool := c = '.' || c = 'e' || c = 'E'
  match cs.span fun c => !isMark c with
  | (whole, []) =>
    match wholeDigits? whole with
    | some digits => integer (if negative then -(Json.ofDigits digits : Int) else Json.ofDigits digits)
    | none => .error .malformed
  | (whole, tail) =>
    let (fraction, tail) := match tail with
      | '.' :: tail => let (f, tail) := tail.span fun c => !isMark c; (withoutUnderscores? Char.isDigit f, tail)
      | tail => (some [], tail)
    let exponent : Option Int := match tail with
      | [] => some 0
      | '.' :: _ => none
      | _ :: tail =>
        let (down, tail) := sign tail
        (withoutUnderscores? Char.isDigit tail).map fun ds =>
          if down then -(Json.ofDigits ds : Int) else Json.ofDigits ds
    match wholeDigits? whole, fraction, exponent with
    | some whole, some fraction, some exponent =>
      real (.ofDecimal negative (Json.ofDigits (whole ++ fraction)) (exponent - fraction.length))
    | _, _, _ => .error .malformed

/-- Whether a bare word is meant as a moment: digits, and then a hyphen or a colon. -/
def isMoment (cs : List Char) : Bool :=
  match cs.span Char.isDigit with
  | (_ :: _, c :: _) => c = '-' || c = ':'
  | _ => false

/-- The value of a bare word. -/
def word (cs : List Char) : Except Fault Value :=
  if cs = "true".toList then .ok (.flag true)
  else if cs = "false".toList then .ok (.flag false)
  else if isMoment cs then
    match Moment.read? cs with
    | some m => .ok (.text m.text)
    | none => .error .malformed
  else match cs with
    | '0' :: 'x' :: cs => based 16 (fun c => (Bytes.hexDigit? c).isSome) cs
    | '0' :: 'o' :: cs => based 8 (fun c => '0' ≤ c && c ≤ '7') cs
    | '0' :: 'b' :: cs => based 2 (fun c => c = '0' || c = '1') cs
    | _ =>
      let (negative, rest) := sign cs
      if rest = "inf".toList then .ok (.real (.infinite negative))
      else if rest = "nan".toList then .ok (.real .undefined)
      else decimal negative rest

/-- Whether a character can be part of a bare word. -/
def isWordChar (c : Char) : Bool := c.isAlphanum || c = '_' || c = '-' || c = '+' || c = '.' || c = ':'

/-- A bare word and the text behind it. A day and a time of day with one space between are one word. -/
def spanWord (cs : List Char) : List Char × List Char :=
  match cs.span isWordChar with
  | (day, ' ' :: c :: rest) =>
    if isMoment day && isWordChar c then
      let (time, rest) := (c :: rest).span isWordChar
      (day ++ ' ' :: time, rest)
    else (day, ' ' :: c :: rest)
  | split => split

end TxLoad.Toml
