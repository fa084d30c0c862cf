import TxLoad.Settings.Toml.Node
import TxLoad.Settings.Toml.Scalar

/-!
# Settings files in TOML

`Toml.parse` reads a text as a table. Lines hold an entry, the header of a table, a comment, or nothing. A name may be
given only once, and tables on one line are complete when they end.
-/

namespace TxLoad.Toml

/-! ## Between the parts -/

/-- The text behind blanks and a comment. -/
def skipComment (cs : List Char) : List Char :=
  match skipBlanks cs with
  | '#' :: cs => cs.dropWhile isPrintable
  | cs => cs

/-- The text behind blanks, comments and line ends. -/
def skipLines : Nat → List Char → List Char
  | 0, cs => cs
  | fuel + 1, cs =>
    match lineEnd? (skipComment cs) with
    | some (_, rest) => skipLines fuel rest
    | none => skipComment cs

/-- The text behind all blanks, comments and line ends. -/
def skipAll (cs : List Char) : List Char := skipLines (cs.length + 1) cs

/-! ## Names -/

/-- Reads one part of a name. -/
def namePart (cs : List Char) : Except Fault (String × List Char) :=
  match cs with
  | '"' :: cs => (basic (cs.length + 1) cs).map fun (s, rest) => (.ofList s, rest)
  | '\'' :: cs => (literal cs).map fun (s, rest) => (.ofList s, rest)
  | cs =>
    match cs.span fun c => c.isAlphanum || c = '_' || c = '-' with
    | ([], _) => .error .malformed
    | (name, rest) => .ok (.ofList name, rest)

/-- Reads a name of one or more parts with points between. -/
def parts : Nat → List Char → Except Fault (List String × List Char)
  | 0, _ => .error .malformed
  | fuel + 1, cs => do
    let (part, cs) ← namePart (skipBlanks cs)
    match skipBlanks cs with
    | '.' :: cs =>
      let (rest, cs) ← parts fuel cs
      return (part :: rest, cs)
    | cs => return ([part], cs)

/-- The most parts of a name, and how deep lists and tables can stand in each other. -/
def deepest : Nat := 80

/-- Reads a name: the parts in front of its last one, and the last one. -/
def name (cs : List Char) : Except Fault (List String × String × List Char) := do
  let (parts, cs) ← parts cs.length cs
  match parts.reverse with
  | last :: before => if deepest < parts.length then throw .malformed else return (before.reverse, last, cs)
  | [] => throw .malformed

/-- What was put into a table, or that it cannot be. -/
def orMalformed {α : Type} : Option α → Except Fault α
  | some a => .ok a
  | none => .error .malformed

/-! ## Values -/

mutual

/-- Reads a value; `fuel` bounds its parts, `depth` how deep lists and tables can stand in it. -/
def value : Nat → Nat → List Char → Except Fault (Node × List Char)
  | 0, _, _ => .error .malformed
  | fuel + 1, depth, cs =>
    match string? cs, cs, depth with
    | some read, _, _ => read.map fun (s, rest) => (.value (.text (.ofList s)), rest)
    | none, '[' :: rest, depth + 1 =>
      (elements fuel depth (skipAll rest)).map fun (vs, rest) => (.value (.list vs), rest)
    | none, '\x7b' :: rest, depth + 1 =>
      (inlineEntries fuel depth [] (skipAll rest)).map fun (es, rest) => (.table .sealed es, rest)
    | none, cs, _ =>
      let (chars, rest) := spanWord cs
      if chars.isEmpty then .error .malformed else (word chars).map fun v => (.value v, rest)

/-- Reads the elements of a list up to its end. -/
def elements : Nat → Nat → List Char → Except Fault (List Value × List Char)
  | 0, _, _ => .error .malformed
  | _ + 1, _, ']' :: rest => .ok ([], rest)
  | fuel + 1, depth, cs => do
    let (v, cs) ← value fuel depth cs
    match skipAll cs with
    | ',' :: cs =>
      let (vs, cs) ← elements fuel depth (skipAll cs)
      return (v.toValue :: vs, cs)
    | ']' :: cs => return ([v.toValue], cs)
    | _ => throw .malformed

/-- Reads the entries of a table on one line up to its end; they may stand on several lines all the same. -/
def inlineEntries : Nat → Nat → Entries → List Char → Except Fault (Entries × List Char)
  | 0, _, _, _ => .error .malformed
  | _ + 1, _, entries, '\x7d' :: rest => .ok (entries, rest)
  | fuel + 1, depth, entries, cs => do
    let (path, last, cs) ← name cs
    match cs with
    | '=' :: cs =>
      let (v, cs) ← value fuel depth (skipBlanks cs)
      let entries ← orMalformed (put last v path entries)
      match skipAll cs with
      | ',' :: cs => inlineEntries fuel depth entries (skipAll cs)
      | '\x7d' :: cs => return (entries, cs)
      | _ => throw .malformed
    | _ => throw .malformed

end

/-! ## Documents -/

/-- What has been read of a document: its entries, and the name of the table that entries go to. -/
structure Document where
  entries : Entries
  table : List String

/-- The text behind the end of a line. -/
def endOfLine (cs : List Char) : Except Fault (List Char) :=
  match skipComment cs with
  | [] => .ok []
  | cs => (orMalformed (lineEnd? cs)).map (·.2)

/-- Reads the header of a table behind its brackets. -/
def header (d : Document) (listed : Bool) (cs : List Char) : Except Fault (Document × List Char) := do
  let (path, last, cs) ← name cs
  let cs ← match listed, cs with
    | true, ']' :: ']' :: cs => pure cs
    | false, ']' :: cs => pure cs
    | _, _ => throw .malformed
  let entries ← orMalformed (inside (if listed then appendTable last else openTable last) path d.entries)
  return (⟨entries, path ++ [last]⟩, cs)

/-- Reads an entry. -/
def entry (d : Document) (cs : List Char) : Except Fault (Document × List Char) := do
  let (path, last, cs) ← name cs
  match cs with
  | '=' :: cs =>
    let cs := skipBlanks cs
    let (v, cs) ← value (cs.length + 1) deepest cs
    let entries ← orMalformed (inside (put last v path) d.table d.entries)
    return ({ d with entries := entries }, cs)
  | _ => throw .malformed

/-- Reads the lines of a document. -/
def document : Nat → Document → List Char → Except Fault Document
  | 0, d, _ => .ok d
  | fuel + 1, d, cs => do
    match skipAll cs with
    | [] => return d
    | '[' :: '[' :: cs =>
      let (d, cs) ← header d true cs
      document fuel d (← endOfLine cs)
    | '[' :: cs =>
      let (d, cs) ← header d false cs
      document fuel d (← endOfLine cs)
    | cs =>
      let (d, cs) ← entry d cs
      document fuel d (← endOfLine cs)

/-- Reads a text as a table; a byte order mark in front of it does not count. -/
def parse (s : String) : Except Fault (List (String × Value)) :=
  let cs := match s.toList with
    | c :: cs => if c.toNat = 0xfeff then cs else c :: cs
    | [] => []
  (document (s.length + 1) ⟨[], []⟩ cs).map (values ·.entries)

end TxLoad.Toml
