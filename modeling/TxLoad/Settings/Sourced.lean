import TxLoad.Settings.Place
import TxLoad.Settings.Value

/-!
# Values and where they come from

A `Sourced` value is a value each part of which knows the source that it comes from, if it comes from one. What was
made to hold other values has no source: a table that entries were put into, the missing elements of a list.

- `Sourced.ofValue` is a value of a source;
- `Sourced.put` puts a value over another: tables are joined entry by entry, anything else is replaced;
- `Sourced.update` changes what stands at a place inside a value, and makes room for it.
-/

namespace TxLoad

/-- A value with its sources. -/
inductive Sourced where
  | leaf (origin : Option String) (v : Value)
  | list (origin : Option String) (parts : List Sourced)
  | table (origin : Option String) (entries : List (String × Sourced))

namespace Sourced

/-- Nothing, from nowhere. -/
def nothing : Sourced := .leaf none .null

mutual

/-- A value of a source. -/
def ofValue (origin : String) : Value → Sourced
  | .list vs => .list origin (ofValues origin vs)
  | .table entries => .table origin (ofEntries origin entries)
  | v => .leaf origin v

/-- The values of a source. -/
def ofValues (origin : String) : List Value → List Sourced
  | [] => []
  | v :: vs => ofValue origin v :: ofValues origin vs

/-- The entries of a source. -/
def ofEntries (origin : String) : List (String × Value) → List (String × Sourced)
  | [] => []
  | (name, v) :: es => (name, ofValue origin v) :: ofEntries origin es

end

/-- Where a value comes from. -/
def origin : Sourced → Option String
  | .leaf origin _ | .list origin _ | .table origin _ => origin

/-- A value without its parts. -/
def shape : Sourced → Value
  | .leaf _ v => v
  | .list _ _ => .list []
  | .table _ _ => .table []

/-- Changes the entry of a name; an entry that is missing is nothing. -/
def change (name : String) (f : Sourced → Sourced) : List (String × Sourced) → List (String × Sourced)
  | [] => [(name, f nothing)]
  | (n, v) :: es => if n = name then (n, f v) :: es else (n, v) :: change name f es

/-- The entries of a table, and where it comes from; anything else has none and comes from nowhere. -/
def entriesOf : Sourced → Option String × List (String × Sourced)
  | .table origin entries => (origin, entries)
  | _ => (none, [])

/-- The parts of a list, and where it comes from; anything else has none and comes from nowhere. -/
def partsOf : Sourced → Option String × List Sourced
  | .list origin parts => (origin, parts)
  | _ => (none, [])

mutual

/-- Puts a value over another. -/
def put (new old : Sourced) : Sourced :=
  match new with
  | .table _ entries => .table old.entriesOf.1 (putAll entries old.entriesOf.2)
  | .leaf origin v => .leaf origin v
  | .list origin parts => .list origin parts

/-- Puts entries over the entries of a table. -/
def putAll : List (String × Sourced) → List (String × Sourced) → List (String × Sourced)
  | [], old => old
  | (name, v) :: es, old => putAll es (change name (put v) old)

end

/-- Changes an element of a list; elements in front of it that are missing are nothing. -/
def changeAt (i : Int) (f : Sourced → Sourced) (parts : List Sourced) : List Sourced :=
  let n := i.natAbs
  if 0 ≤ i then (parts ++ List.replicate (n + 1 - parts.length) nothing).modify n f
  else (List.replicate (n - parts.length) nothing ++ parts).modify (parts.length - n) f

/-- Changes what stands at the end of some steps into a value. What is no table or list is made one where the steps
need it. -/
def update (f : Sourced → Sourced) : List Step → Sourced → Sourced
  | [], v => f v
  | .entry name :: steps, v => .table v.entriesOf.1 (change name (update f steps) v.entriesOf.2)
  | .element i :: steps, v => .list v.partsOf.1 (changeAt i (update f steps) v.partsOf.2)

/-- The value under a name. -/
def lookup (entries : List (String × Sourced)) (name : String) : Option Sourced :=
  (entries.find? (·.1 = name)).map (·.2)

end Sourced

end TxLoad
