import TxLoad.Settings.Json

/-!
# Dates and times of day in TOML

A `Moment` is a date, a time of day, or both, and then perhaps a distance from universal time. `Moment.read?` reads
one, and `Moment.text` writes it: the date and the time with a `T` between, and fractions of a second without final
zeros.

- days that a month does not have, hours from 24 on and minutes from 60 on are refused; a second may be the 60th;
- `Date.isReal` is the rule for dates.
-/

namespace TxLoad.Toml

/-- A day of a year. -/
structure Date where
  year : Nat
  month : Nat
  day : Nat
deriving DecidableEq, Repr

/-- A time of day; the fraction of the second is in billionths. -/
structure Time where
  hour : Nat
  minute : Nat
  second : Option Nat
  fraction : Option Nat
deriving DecidableEq, Repr

/-- A date, a time of day, or both; `offset` is the distance from universal time in minutes, or universal time. -/
structure Moment where
  date : Option Date
  time : Option Time
  offset : Option (Option Int)
deriving DecidableEq, Repr

/-- Whether a year has a 29th of February. -/
def isLeap (year : Nat) : Bool := year % 4 = 0 && (year % 100 ≠ 0 || year % 400 = 0)

/-- The number of days of a month. -/
def daysOf (year month : Nat) : Nat :=
  if month = 2 then if isLeap year then 29 else 28
  else if [4, 6, 9, 11].contains month then 30
  else 31

/-- Whether there is such a day. -/
def Date.isReal (d : Date) : Bool := 1 ≤ d.month && d.month ≤ 12 && 1 ≤ d.day && d.day ≤ daysOf d.year d.month

/-- Whether there is such a time of day. -/
def Time.isReal (t : Time) : Bool := t.hour ≤ 23 && t.minute ≤ 59 && t.second.getD 0 ≤ 60

/-! ## Reading -/

/-- Reads a row of exactly `count` digits. -/
def digits? (count : Nat) (cs : List Char) : Option (Nat × List Char) :=
  let (digits, rest) := cs.span Char.isDigit
  if digits.length = count then some (Json.ofDigits digits, rest) else none

/-- Reads a row of exactly `count` digits behind a mark. -/
def digitsBehind? (mark : Char) (count : Nat) : List Char → Option (Nat × List Char)
  | c :: cs => if c = mark then digits? count cs else none
  | [] => none

/-- Reads a date. -/
def date? (cs : List Char) : Option (Date × List Char) := do
  let (year, cs) ← digits? 4 cs
  let (month, cs) ← digitsBehind? '-' 2 cs
  let (day, cs) ← digitsBehind? '-' 2 cs
  let d : Date := ⟨year, month, day⟩
  if d.isReal then some (d, cs) else none

/-- The billionths of a second that the digits behind the point denote; digits beyond them do not count. -/
def billionths (digits : List Char) : Nat := Json.ofDigits ((digits ++ List.replicate 9 '0').take 9)

/-- Reads the fraction of a second, if there is one. -/
def billionths? : List Char → Option (Option Nat × List Char)
  | '.' :: cs =>
    let (digits, rest) := cs.span Char.isDigit
    if digits.isEmpty then none else some (some (billionths digits), rest)
  | cs => some (none, cs)

/-- Reads a time of day; the seconds may be missing. -/
def time? (cs : List Char) : Option (Time × List Char) := do
  let (hour, cs) ← digits? 2 cs
  let (minute, cs) ← digitsBehind? ':' 2 cs
  let (second, fraction, cs) ← match cs with
    | ':' :: rest => do
      let (second, rest) ← digits? 2 rest
      let (fraction, rest) ← billionths? rest
      pure (some second, fraction, rest)
    | cs => pure (none, none, cs)
  let t : Time := ⟨hour, minute, second, fraction⟩
  if t.isReal then some (t, cs) else none

/-- Reads a distance from universal time. -/
def offset? : List Char → Option (Option (Option Int))
  | [] => some none
  | ['Z'] | ['z'] => some (some none)
  | sign :: cs => do
    let (hours, cs) ← digits? 2 cs
    let (minutes, cs) ← digitsBehind? ':' 2 cs
    if !cs.isEmpty || 23 < hours || 59 < minutes then none
    let n : Int := hours * 60 + minutes
    if sign = '+' then some (some (some n)) else if sign = '-' then some (some (some (-n))) else none

/-- Reads a moment. -/
def Moment.read? (cs : List Char) : Option Moment :=
  match date? cs with
  | some (d, []) => some ⟨some d, none, none⟩
  | some (d, mark :: cs) => do
    let (t, cs) ← time? cs
    let offset ← offset? cs
    if mark = 'T' || mark = 't' || mark = ' ' then some ⟨some d, some t, offset⟩ else none
  | none =>
    match time? cs with
    | some (t, []) => some ⟨none, some t, none⟩
    | _ => none

/-! ## Writing -/

/-- A number with leading zeros up to a width. -/
def padded (width n : Nat) : String :=
  let digits := toString n
  .ofList (List.replicate (width - digits.length) '0') ++ digits

/-- The date in digits. -/
def Date.text (d : Date) : String := padded 4 d.year ++ "-" ++ padded 2 d.month ++ "-" ++ padded 2 d.day

/-- A fraction of a second behind its point, without final zeros, but with one digit at least. -/
def fractionText (n : Nat) : String :=
  match Text.dropWhileEnd (· = '0') (padded 9 n).toList with
  | [] => ".0"
  | digits => "." ++ .ofList digits

/-- The time of day in digits. -/
def Time.text (t : Time) : String :=
  padded 2 t.hour ++ ":" ++ padded 2 t.minute ++ (t.second.map (":" ++ padded 2 ·)).getD "" ++
    (t.fraction.map fractionText).getD ""

/-- The distance from universal time. -/
def offsetText : Option Int → String
  | none => "Z"
  | some n =>
    (if n < 0 then "-" else "+") ++ padded 2 (n.natAbs / 60) ++ ":" ++ padded 2 (n.natAbs % 60)

/-- The moment in digits. -/
def Moment.text (m : Moment) : String :=
  (m.date.map Date.text).getD "" ++ (if m.date.isSome && m.time.isSome then "T" else "") ++
    (m.time.map Time.text).getD "" ++ (m.offset.map offsetText).getD ""

end TxLoad.Toml
