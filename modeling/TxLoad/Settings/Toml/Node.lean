import TxLoad.Settings.Value

/-!
# Tables of a TOML document

A document is read line by line into a tree of nodes. A table remembers how it came about, because that decides what
may still be put into it.

- `put` puts an entry into a table, through tables that dotted names made;
- `openTable` and `appendTable` are what the headers of tables and of tables in lists do;
- `values` is what all of it comes to.
-/

namespace TxLoad.Toml

/-- How a table came about: by its own header, by a header that leads through it, by a dotted name, or on one line. -/
inductive Kind where
  | stated
  | implied
  | dotted
  | sealed
deriving DecidableEq, Repr

/-- A value that is complete, a table, or a list of tables of which only the last one can still grow. -/
inductive Node where
  | value (v : Value)
  | table (kind : Kind) (entries : List (String × Node))
  | tables (before : List Value) (last : List (String × Node))

mutual

/-- What a node comes to. -/
def Node.toValue : Node → Value
  | .value v => v
  | .table _ entries => .table (values entries)
  | .tables before last => .list (before ++ [.table (values last)])

/-- What the entries of a table come to. -/
def values : List (String × Node) → List (String × Value)
  | [] => []
  | (name, node) :: rest => (name, node.toValue) :: values rest

end

/-- The entries of a table. -/
abbrev Entries := List (String × Node)

/-- The node under a name. -/
def node? (entries : Entries) (name : String) : Option Node := (entries.find? (·.1 = name)).map (·.2)

/-- The entries with another node under a name that is there. -/
def replace (entries : Entries) (name : String) (node : Node) : Entries :=
  entries.map fun e => if e.1 = name then (name, node) else e

/-- Puts an entry at the end of a dotted name. The name makes the tables it leads through, or leads through tables
that were made in the same way; a table that has a header of its own cannot be reached like this, nor one that is made
by headers alone be added to. -/
def put (name : String) (node : Node) : List String → Entries → Option Entries
  | [], entries => if (node? entries name).isSome then none else some (entries ++ [(name, node)])
  | part :: path, entries =>
    match node? entries part with
    | none => (put name node path []).map fun inner => entries ++ [(part, .table .dotted inner)]
    | some (.table .dotted inner) =>
      (put name node path inner).map fun inner => replace entries part (.table .dotted inner)
    | some (.table .implied inner) =>
      if path.isEmpty then none
      else (put name node path inner).map fun inner => replace entries part (.table .implied inner)
    | some (.tables before last) =>
      if path.isEmpty then none
      else (put name node path last).map fun inner => replace entries part (.tables before inner)
    | some _ => none

/-- Changes the table that the name of a header leads to; tables on the way that are missing are made. -/
def inside (f : Entries → Option Entries) : List String → Entries → Option Entries
  | [], entries => f entries
  | part :: path, entries =>
    match node? entries part with
    | none => (inside f path []).map fun inner => entries ++ [(part, .table .implied inner)]
    | some (.table kind inner) =>
      if kind = .sealed then none
      else (inside f path inner).map fun inner => replace entries part (.table kind inner)
    | some (.tables before last) => (inside f path last).map fun last => replace entries part (.tables before last)
    | some (.value _) => none

/-- The table of a header: a new one, or one that other headers led through. -/
def openTable (name : String) (entries : Entries) : Option Entries :=
  match node? entries name with
  | none => some (entries ++ [(name, .table .stated [])])
  | some (.table .implied inner) => some (replace entries name (.table .stated inner))
  | some _ => none

/-- One more table in the list of a header. -/
def appendTable (name : String) (entries : Entries) : Option Entries :=
  match node? entries name with
  | none => some (entries ++ [(name, .tables [] [])])
  | some (.tables before last) => some (replace entries name (.tables (before ++ [.table (values last)]) []))
  | some _ => none

end TxLoad.Toml
