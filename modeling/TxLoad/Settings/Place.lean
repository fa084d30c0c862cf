/-!
# Places among the settings

The name of a setting can lead into its value: `hosts[0]` is the first element of a list, `hosts[-1]` the last one,
and `table.entry` an entry of a table. `Place.read?` reads such a name; `Place.ofName` takes a name that is none for
what it is.
-/

namespace TxLoad

/-- A step into a value: to an entry of a table, or to an element of a list, counted from its end if negative. -/
inductive Step where
  | entry (name : String)
  | element (i : Int)
deriving DecidableEq, Repr

/-- A name, and the steps into the value under it. -/
structure Place where
  root : String
  steps : List Step
deriving DecidableEq, Repr

namespace Place

/-- Whether a character can stand in a name that leads somewhere. -/
def isNameChar (c : Char) : Bool := c.isAlphanum || c = '_' || c = '-'

/-- The text behind blanks. -/
def skipBlanks (cs : List Char) : List Char := cs.dropWhile fun c => c = ' ' || c = '\t'

/-- The least and the greatest index, as an integer of 64 bits. -/
def isIndex (i : Int) : Bool := -0x8000000000000000 ≤ i && i ≤ 0x7fffffffffffffff

/-- Reads an index up to its closing bracket, with blanks around it. -/
def index? (cs : List Char) : Option (Int × List Char) :=
  let (negative, cs) := match skipBlanks cs with
    | '-' :: cs => (true, cs)
    | cs => (false, cs)
  let (digits, cs) := cs.span Char.isDigit
  let n : Nat := digits.foldl (fun n c => 10 * n + (c.toNat - 48)) 0
  let i : Int := if negative then -n else n
  match skipBlanks cs with
  | ']' :: rest => if digits.isEmpty || !isIndex i then none else some (i, rest)
  | _ => none

/-- Reads the steps behind a name, `fuel` of them at most. -/
def steps? : Nat → List Char → Option (List Step)
  | _, [] => some []
  | 0, _ :: _ => none
  | fuel + 1, '.' :: cs =>
    match cs.span isNameChar with
    | ([], _) => none
    | (name, rest) => (steps? fuel rest).map (.entry (.ofList name) :: ·)
  | fuel + 1, '[' :: cs => (index? cs).bind fun (i, rest) => (steps? fuel rest).map (.element i :: ·)
  | _ + 1, _ :: _ => none

/-- Reads a name that leads somewhere. -/
def read? (s : String) : Option Place :=
  match s.toList.span isNameChar with
  | ([], _) => none
  | (root, rest) => (steps? rest.length rest).map fun steps => ⟨.ofList root, steps⟩

/-- The place that a name leads to. -/
def ofName (s : String) : Place := (read? s).getD ⟨s, []⟩

end Place

end TxLoad
