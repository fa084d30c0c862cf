import TxLoad.Text.Blank

/-!
# Tables of code points

A property of characters is kept as a table: rows of code points in increasing order, written in hexadecimal digits
in upper case. `A` is one code point, `A-B` are all from `A` to `B`, `A~B` is every second one from `A` to `B`. Behind
a colon stands what the first code point of the row stands for, as numbers with points between.

- `Table.read` reads the rows of some lines;
- `Table.row?` finds the row that holds a code point by halving the table;
- `Table.contains`, `Table.label?` and `Table.shifted?` are the ways to use a table.
-/

namespace TxLoad.Text

/-- The code points from `first` to `last` in steps, and what the first of them stands for. -/
structure Row where
  first : Nat
  last : Nat
  step : Nat
  value : List Nat
deriving DecidableEq, Repr

/-- Whether a row holds a code point. -/
def Row.holds (r : Row) (n : Nat) : Bool := r.first ≤ n && n ≤ r.last && (n - r.first) % r.step = 0

/-- Rows in increasing order. -/
abbrev Table := Array Row

namespace Table

/-- The number that hexadecimal digits in upper case denote. -/
def number (cs : List Char) : Nat :=
  cs.foldl (fun n c => 16 * n + (if c.isDigit then c.toNat - 48 else c.toNat - 55)) 0

/-- Reads a row. -/
def readRow (cs : List Char) : Row :=
  let (points, tail) := cs.span (· ≠ ':')
  let value := match tail with
    | _ :: numbers => (splitOnAny (· = '.') numbers).map number
    | [] => []
  match points.span fun c => c ≠ '-' && c ≠ '~' with
  | (first, mark :: last) => ⟨number first, number last, if mark = '~' then 2 else 1, value⟩
  | (first, []) => ⟨number first, number first, 1, value⟩

/-- Reads the rows of some lines, with blanks between the rows of a line. -/
def read (lines : List String) : Table :=
  (lines.flatMap fun line => (splitOnAny (· = ' ') line.toList).map readRow).toArray

/-- The first position from `low` up to `high` whose row does not end in front of a code point. -/
def position (t : Table) (n low high : Nat) : Nat :=
  if low < high then
    match t[(low + high) / 2]? with
    | some r => if r.last < n then position t n ((low + high) / 2 + 1) high else position t n low ((low + high) / 2)
    | none => low
  else low
termination_by high - low
decreasing_by all_goals omega

/-- The row that holds a code point. -/
def row? (t : Table) (n : Nat) : Option Row := t[position t n 0 t.size]?.filter (·.holds n)

/-- Whether a code point stands in the table. -/
def contains (t : Table) (n : Nat) : Bool := (t.row? n).isSome

/-- The one number that all code points of a row stand for. -/
def label? (t : Table) (n : Nat) : Option Nat := (t.row? n).bind (·.value.head?)

/-- What a code point stands for, where the numbers of a row grow along with its code points. -/
def shifted? (t : Table) (n : Nat) : Option (List Nat) :=
  (t.row? n).map fun r => r.value.map (· + (n - r.first))

end Table

end TxLoad.Text
