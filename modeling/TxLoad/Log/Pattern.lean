import TxLoad.Bytes
import TxLoad.Text.Alphanumeric
import TxLoad.Text.Blank

/-!
# Patterns in a log filter

A filter can ask that the value of a field match a pattern, a regular expression. Entries stand in no span, so a pattern
is never matched; but one that cannot be used spoils its filter.

- `Pattern.escape?` reads what stands behind a backslash;
- `Pattern.set?` reads a set in brackets;
- `Pattern.group?` reads what opens a group;
- `Part.height` is how deep the parts of a pattern lie in each other;
- `Pattern.check` says what keeps a pattern from being used.

A pattern stands within braces and so holds no closing one. An opening brace that is not escaped is never closed then,
whatever it would open.
-/

namespace TxLoad.Log

namespace Pattern

/-- Why a pattern cannot be used. -/
inductive Fault where
  | malformed
  | wordBoundary
deriving DecidableEq, Repr

/-- What the fault says. -/
def Fault.message : Fault → String
  | .malformed => "error building NFA"
  | .wordBoundary =>
    "unsupported regex feature for DFAs: cannot build DFAs for regexes with Unicode word boundaries; " ++
      "switch to ASCII word boundaries, or heuristically enable Unicode word boundaries or use a different regex engine"

/-- How a part of a pattern is read: whether blanks and comments in it are skipped, and whether characters beyond ASCII
count as characters. -/
structure Mode where
  loose : Bool
  wide : Bool
deriving DecidableEq, Repr

/-- The text behind blanks and comments; the flag tells whether it starts within a comment. -/
def skipLoose : Bool → List Char → List Char
  | _, [] => []
  | true, c :: cs => skipLoose (c ≠ '\n') cs
  | false, c :: cs => if c = '#' then skipLoose true cs else if Text.isBlank c then skipLoose false cs else c :: cs

/-- The text behind what the mode skips. -/
def skip (m : Mode) (cs : List Char) : List Char := if m.loose then skipLoose false cs else cs

/-! ## Behind a backslash -/

/-- What a part of a pattern stands for: one character, several, or a place between two. -/
inductive Item where
  | character (c : Char)
  | several
  | place (ofWords : Bool)
deriving DecidableEq, Repr

/-- The number that the next `count` hexadecimal digits denote. -/
def number? (m : Mode) : Nat → Nat → List Char → Option (Nat × List Char)
  | 0, n, cs => some (n, cs)
  | _ + 1, _, [] => none
  | count + 1, n, c :: cs => (Bytes.hexDigit? c).bind fun d => number? m count (16 * n + d) (skip m cs)

/-- Reads a character given by its number. Two digits denote a byte where only ASCII counts, and a byte beyond ASCII is
not a character. -/
def numbered? (m : Mode) (count : Nat) (cs : List Char) : Option (Item × List Char) := do
  let (n, rest) ← number? m count 0 (skip m cs)
  if !m.wide && count = 2 && 128 ≤ n then none
  else if h : n.isValidChar then some (.character (Char.ofNatAux n h), rest)
  else none

/-- The characters that an escaped letter stands for. -/
def controls : List (Char × Char) :=
  [('a', '\x07'), ('f', '\x0c'), ('t', '\t'), ('n', '\n'), ('r', '\r'), ('v', '\x0b')]

/-- Reads what stands behind a backslash: a number, a class, a place, a control character, or a mark. Classes that
reach beyond ASCII are refused where only ASCII counts; the boundaries of words are those of all scripts otherwise. -/
def escape? (m : Mode) : List Char → Option (Item × List Char)
  | [] => none
  | c :: cs =>
    if c = 'x' then numbered? m 2 cs
    else if c = 'u' then numbered? m 4 cs
    else if c = 'U' then numbered? m 8 cs
    else if c = 'p' || c = 'P' then
      match skip m cs with
      | p :: rest => if m.wide && "CLMNPSZclmnpsz".contains p then some (.several, skip m rest) else none
      | [] => none
    else if "dsw".contains c || ("DSW".contains c && m.wide) then some (.several, cs)
    else if "bB<>".contains c then some (.place m.wide, cs)
    else if "Az".contains c then some (.place false, cs)
    else match controls.lookup c with
      | some control => some (.character control, cs)
      | none => if c.isAlphanum || 128 ≤ c.toNat then none else some (.character c, cs)

/-! ## Depth -/

/-- The greatest depth to which the parts of a pattern may lie in each other. -/
def depthLimit : Nat := 250

/-- Parts in a row: how many there are, and how deep the deepest of them is. -/
structure Row where
  count : Nat
  deepest : Nat
deriving DecidableEq, Repr

/-- No parts. -/
def Row.empty : Row := ⟨0, 0⟩

/-- One more part of the given depth. -/
def Row.add (r : Row) (height : Nat) : Row := ⟨r.count + 1, max r.deepest height⟩

/-- Several parts in a row are a part themselves. -/
def Row.height (r : Row) : Nat := if r.count ≤ 1 then r.deepest else r.deepest + 1

/-- Parts in a row, and the depth of what stands in front of the bar or the operator before them. -/
structure Part where
  before : Option Nat
  row : Row
deriving DecidableEq, Repr

/-- Nothing so far. -/
def Part.empty : Part := ⟨none, .empty⟩

/-- One more part of the given depth. -/
def Part.add (p : Part) (height : Nat) : Part := { p with row := p.row.add height }

/-- What a bar or an operator combines is a part itself. -/
def Part.height (p : Part) : Nat :=
  match p.before with
  | none => p.row.height
  | some height => max height p.row.height + 1

/-- The next branch behind a bar; all branches together are one part. -/
def Part.branch (p : Part) : Part := ⟨some (max (p.before.getD 0) p.row.height), .empty⟩

/-- The second operand behind an operator. -/
def Part.operand (p : Part) : Part := ⟨some p.height, .empty⟩

/-! ## Sets -/

/-- The names of the classes of ASCII characters. -/
def classNames : List String :=
  ["alnum", "alpha", "ascii", "blank", "cntrl", "digit", "graph", "lower", "print", "punct", "space", "upper", "word",
    "xdigit"]

/-- Reads a class of ASCII characters in a set behind its opening bracket, and whether it is negated. -/
def asciiClass? : List Char → Option (Bool × List Char)
  | ':' :: cs =>
    let negated := cs.head? = some '^'
    match (if negated then cs.tail else cs).span (· ≠ ':') with
    | (name, ':' :: ']' :: rest) => if classNames.contains (.ofList name) then some (negated, rest) else none
    | _ => none
  | _ => none

/-- Reads a member of a set, or an end of a range; where only ASCII counts, it is in ASCII. -/
def element? (m : Mode) : List Char → Option (Item × List Char)
  | [] => none
  | c :: cs => do
    let (item, rest) ← if c = '\\' then escape? m cs else some (.character c, cs)
    match item with
    | .character c => if m.wide || c.toNat < 128 then some (item, rest) else none
    | .several => some (item, rest)
    | .place _ => none

/-- Reads a member or a range of a set. A hyphen in front of a closing bracket or of another hyphen makes no range. -/
def range? (m : Mode) (cs : List Char) : Option (List Char) := do
  let (low, rest) ← element? m cs
  match skip m rest with
  | '-' :: behind =>
    match skip m behind with
    | ']' :: _ | '-' :: _ => some ('-' :: behind)
    | ends =>
      match low, ← element? m ends with
      | .character low, (.character high, rest) => if low.toNat ≤ high.toNat then some rest else none
      | _, _ => none
  | rest => some rest

/-- Leading hyphens as members of a set, and the text behind them. -/
def hyphens (m : Mode) : Nat → Part → List Char → Part × List Char
  | fuel + 1, p, '-' :: cs => hyphens m fuel (p.add 0) (skip m cs)
  | _, p, cs => (p, cs)

/-- What opens a set behind its bracket: a caret, and hyphens or a closing bracket that stand for themselves. A negated
set reaches beyond ASCII. -/
def opened? (m : Mode) (cs : List Char) : Option (Part × List Char) :=
  let cs := skip m cs
  let negated := cs.head? = some '^'
  let cs := if negated then skip m cs.tail else cs
  if negated && !m.wide then none
  else match cs with
    | ']' :: rest => some (Part.empty.add 0, skip m rest)
    | cs => some (hyphens m cs.length .empty cs)

/-- Reads a set behind what opens it: how deep it is, and the text behind it. `p` is what was read of it, and `outer`
what was read of the sets around it. -/
def set? (m : Mode) : Nat → Part → List Part → List Char → Option (Nat × List Char)
  | 0, _, _, _ => none
  | fuel + 1, p, outer, cs =>
    match skip m cs with
    | ']' :: rest =>
      match outer with
      | [] => some (p.height + 1, rest)
      | q :: outer => set? m fuel (q.add (p.height + 1)) outer rest
    | '[' :: rest =>
      match asciiClass? rest with
      | some (negated, rest) => if negated && !m.wide then none else set? m fuel (p.add 0) outer rest
      | none => (opened? m rest).bind fun (inner, rest) => set? m fuel inner (p :: outer) rest
    | '&' :: '&' :: rest | '-' :: '-' :: rest | '~' :: '~' :: rest => set? m fuel p.operand outer rest
    | cs => (range? m cs).bind (set? m fuel (p.add 0) outer)

/-! ## Groups -/

/-- Whether a character may stand in the name of a group. -/
def isNamePart (isFirst : Bool) (c : Char) : Bool :=
  c = '_' || (Text.isAlphanumeric c && !(isFirst && c.isDigit)) || (!isFirst && ".[]".contains c)

/-- Reads the name of a group, which no earlier group has. -/
def name? (names : List (List Char)) (cs : List Char) : Option (List Char × List Char) :=
  match cs.span (· ≠ '>') with
  | (c :: name, _ :: rest) =>
    if isNamePart true c && name.all (isNamePart false) && !names.contains (c :: name) then some (c :: name, rest)
    else none
  | _ => none

/-- Reads flags up to a colon or a closing parenthesis: none of them twice, at most one minus sign, and a flag behind
it. -/
def flags? : List Char → Mode → List Char → Option (List Char × Mode × List Char)
  | _, _, [] => none
  | seen, m, c :: cs =>
    if c = ':' || c = ')' then if seen.head? = some '-' then none else some (seen, m, c :: cs)
    else if !"imsUuRx-".contains c || seen.contains c then none
    else
      let on := !seen.contains '-'
      flags? (c :: seen) (if c = 'x' then { m with loose := on } else if c = 'u' then { m with wide := on } else m) cs

/-- What an opening parenthesis opens: a group, or nothing when it only sets flags for what follows. -/
structure Opening where
  isGroup : Bool
  mode : Mode
  name : Option (List Char)
deriving DecidableEq, Repr

/-- Reads what stands behind an opening parenthesis. -/
def group? (names : List (List Char)) (m : Mode) (cs : List Char) : Option (Opening × List Char) :=
  match skip m cs with
  | '?' :: 'P' :: '<' :: rest | '?' :: '<' :: rest => (name? names rest).map fun (name, rest) => (⟨true, m, name⟩, rest)
  | '?' :: rest => do
    let (seen, inner, rest) ← flags? [] m rest
    match rest with
    | ':' :: rest => some (⟨true, inner, none⟩, rest)
    | rest => if seen.isEmpty then none else some (⟨false, inner, none⟩, rest.tail)
  | rest => some (⟨true, m, none⟩, rest)

/-! ## Patterns -/

/-- A group that is being read: its mode, its parts so far, and the depth of the last one if it can be repeated. -/
structure Group where
  mode : Mode
  parts : Part
  last : Option Nat

/-- One more part of the given depth. -/
def Group.add (g : Group) (height : Nat) : Group := { g with parts := g.parts.add height, last := some height }

/-- The last part repeated, if it can be. -/
def Group.repeated? (g : Group) : Option Group :=
  g.last.map fun height =>
    let row := g.parts.row
    { g with parts := { g.parts with row := ⟨row.count, max row.deepest (height + 1)⟩ }, last := some (height + 1) }

/-- The group with flags set from here on. -/
def Group.withMode (g : Group) (mode : Mode) : Group := ⟨mode, g.parts.add 0, none⟩

/-- The next branch of the group. -/
def Group.branch (g : Group) : Group := { g with parts := g.parts.branch, last := none }

/-- How far a pattern is read: the group here, the groups around, the names of groups so far, and whether words were
asked about. -/
structure Reading where
  group : Group
  outer : List Group
  names : List (List Char)
  ofWords : Bool

/-- At the start blanks count and so do characters of all scripts. -/
def Reading.start : Reading := ⟨⟨⟨false, true⟩, .empty, none⟩, [], [], false⟩

/-- Checks what was read of a pattern at its end: no group is open, no part is too deep, and words are not asked
about. -/
def Reading.finish (r : Reading) : Except Fault Unit :=
  if !r.outer.isEmpty || depthLimit < r.group.parts.height then .error .malformed
  else if r.ofWords then .error .wordBoundary
  else .ok ()

/-- Reads what begins with a character outside of sets, and the text behind it; `fuel` is enough for a set. -/
def Reading.step? (fuel : Nat) (r : Reading) (c : Char) (cs : List Char) : Option (Reading × List Char) :=
  let g := r.group
  if c = '(' then do
    let (o, rest) ← group? r.names g.mode cs
    let names := o.name.toList ++ r.names
    if o.isGroup then some ({ r with group := ⟨o.mode, .empty, none⟩, outer := g :: r.outer, names }, rest)
    else some ({ r with group := g.withMode o.mode }, rest)
  else if c = ')' then
    match r.outer with
    | [] => none
    | h :: outer => some ({ r with group := h.add (g.parts.height + 1), outer }, cs)
  else if c = '|' then some ({ r with group := g.branch }, cs)
  else if c = '*' || c = '+' || c = '?' then
    g.repeated?.map fun g => ({ r with group := g }, if cs.head? = some '?' then cs.tail else cs)
  else if c = '\x7b' then none
  else if c = '[' then do
    let (p, rest) ← opened? g.mode cs
    let (height, rest) ← set? g.mode fuel p [] rest
    some ({ r with group := g.add height }, rest)
  else if c = '\\' then
    (escape? g.mode cs).map fun (item, rest) =>
      ({ r with group := g.add 0, ofWords := r.ofWords || item = .place true }, rest)
  else if c = '.' && !g.mode.wide then none
  else some ({ r with group := g.add 0 }, cs)

/-- Reads a pattern to its end. A repetition needs something in front of it that can be repeated, and every group has
to be opened and closed. -/
def read : Nat → Reading → List Char → Except Fault Unit
  | 0, _, _ => .error .malformed
  | fuel + 1, r, cs =>
    match skip r.group.mode cs with
    | [] => r.finish
    | c :: cs =>
      match r.step? fuel c cs with
      | some (r, rest) => read fuel r rest
      | none => .error .malformed

/-- What keeps a pattern from being used, if anything does. -/
def check (cs : List Char) : Except Fault Unit := read (cs.length + 1) .start cs

end Pattern

end TxLoad.Log
