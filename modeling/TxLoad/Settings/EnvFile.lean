import TxLoad.Text.Alphanumeric

/-!
# Files of environment variables

`EnvFile.extend` adds the variables of a file to an environment. A variable that is set already keeps its value, and
reading stops at the first line that is no assignment. Values may be quoted and may name variables with a dollar
sign; a quotation may go over several lines.
-/

namespace TxLoad.EnvFile

/-- Variables and their values. -/
abbrev Environment := List (String × String)

/-- The value of a variable. -/
def get? (env : Environment) (name : String) : Option String := (env.find? (·.1 = name)).map (·.2)

/-! ## Lines -/

/-- Where a line stands: in plain text, behind a blank or a backslash, or inside a quotation. -/
inductive Position where
  | plain
  | blank
  | escape
  | weak
  | weakEscape
  | strong
  | strongEscape
deriving DecidableEq

/-- The position behind a character; `none` where a comment begins. -/
def Position.next (p : Position) (c : Char) : Option Position :=
  let outside : Position :=
    if c = '\\' then .escape else if c = '"' then .weak else if c = '\'' then .strong else .plain
  match p with
  | .blank => if c = '#' then none else some outside
  | .escape => some .plain
  | .plain => some (if Text.isBlank c && c ≠ '\n' && c ≠ '\r' then .blank else outside)
  | .weak => some (if c = '\\' then .weakEscape else if c = '"' then .plain else .weak)
  | .weakEscape => some .weak
  | .strong => some (if c = '\\' then .strongEscape else if c = '\'' then .plain else .strong)
  | .strongEscape => some .strong

/-- The characters of a line up to a comment, and the position at its end unless a comment ends it. -/
def scan (p : Position) : List Char → List Char × Option Position
  | [] => ([], some p)
  | c :: cs =>
    match p.next c with
    | none => ([], none)
    | some p => let (line, last) := scan p cs; (c :: line, last)

/-- The text cut behind each line end. -/
def physicalLines : List Char → List (List Char)
  | [] => []
  | c :: cs =>
    if c = '\n' then [c] :: physicalLines cs
    else match physicalLines cs with
      | [] => [[c]]
      | line :: rest => (c :: line) :: rest

/-- A line without its end. -/
def withoutEnd (cs : List Char) : List Char :=
  match cs.reverse with
  | '\n' :: '\r' :: rest => rest.reverse
  | '\n' :: rest => rest.reverse
  | _ => cs

/-- The lines of a file; lines inside a quotation are joined, and `none` stands for what never ends. -/
def logicalLines (before : List Char) (p : Position) : List (List Char) → List (Option (List Char))
  | [] => if p = .plain then [] else [none]
  | line :: rest =>
    if (Text.trimStart (before ++ line)).head? = some '#' then some [] :: logicalLines [] .plain rest
    else match scan p line with
      | (text, none) => some (before ++ text) :: logicalLines [] .plain rest
      | (text, some .plain) => some (withoutEnd (before ++ text)) :: logicalLines [] .plain rest
      | (text, some p) => logicalLines (before ++ text) p rest

/-! ## Assignments -/

/-- Reads the name of a variable. -/
def name? : List Char → Option (String × List Char)
  | c :: cs =>
    if c.isAlpha || c = '_' then
      let (rest, cs) := cs.span fun c => c.isAlphanum || c = '_' || c = '.'
      some (.ofList (c :: rest), cs)
    else none
  | [] => none

/-- Reads an equals sign, and the blanks around it. -/
def equals? (cs : List Char) : Option (List Char) :=
  match Text.trimStart cs with
  | '=' :: cs => some (Text.trimStart cs)
  | _ => none

/-- How far a value has been read. -/
structure Reading where
  output : List Char
  strong : Bool
  weak : Bool
  escaped : Bool
  ended : Bool
  reference : Option (Bool × List Char)

/-- Puts the value of the variable in front of what follows it. -/
def Reading.resolve (r : Reading) (value : String → String) : Reading :=
  match r.reference with
  | some (_, name) => { r with output := r.output ++ (value (.ofList name)).toList, reference := none }
  | none => r

/-- Adds a character to the value. -/
def Reading.push (r : Reading) (c : Char) : Reading := { r with output := r.output ++ [c] }

/-- Reads one more character of a value; `none` if it cannot stand there. -/
def Reading.read (value : String → String) (r : Reading) (c : Char) : Option Reading :=
  if r.ended then if c = ' ' || c = '\t' then some r else none
  else if r.escaped then
    if c = '\\' || c = '\'' || c = '"' || c = '$' || c = ' ' then some { r.push c with escaped := false }
    else if c = 'n' then some { r.push '\n' with escaped := false }
    else none
  else if r.strong then some (if c = '\'' then { r with strong := false } else r.push c)
  else match r.reference with
    | some (braces, name) =>
      if Text.isAlphanumeric c then some { r with reference := some (braces, name ++ [c]) }
      else if braces then
        if c = '\x7d' then some (r.resolve value) else some { r with reference := some (braces, name ++ [c]) }
      else if c = '\x7b' && name.isEmpty then some { r with reference := some (true, []) }
      else if c = '$' then some { r.resolve value with reference := some (false, []) }
      else some ((r.resolve value).push c)
    | none =>
      if c = '$' then some { r with reference := some (false, []) }
      else if r.weak then
        some (if c = '"' then { r with weak := false } else if c = '\\' then { r with escaped := true } else r.push c)
      else if c = '\'' then some { r with strong := true }
      else if c = '"' then some { r with weak := true }
      else if c = '\\' then some { r with escaped := true }
      else if c = ' ' || c = '\t' then some { r with ended := true }
      else some (r.push c)

/-- Reads a value up to a comment behind its end. -/
def readAll (value : String → String) : Reading → List Char → Option Reading
  | r, [] => some r
  | r, c :: cs => if r.ended && c = '#' then some r else (r.read value c).bind fun r => readAll value r cs

/-- The value that the characters stand for. -/
def value? (value : String → String) (cs : List Char) : Option String :=
  match readAll value ⟨[], false, false, false, false, none⟩ cs with
  | some r =>
    let inBraces := match r.reference with
      | some (braces, _) => braces
      | none => false
    if inBraces || r.strong || r.weak then none else some (.ofList (r.resolve value).output)
  | none => none

/-- Reads a line: an assignment, nothing, or an error. -/
def line? (value : String → String) (cs : List Char) : Option (Option (String × String)) :=
  match Text.trimStart (Text.trimEnd cs) with
  | [] => some none
  | '#' :: _ => some none
  | cs => do
    let (name, rest) ← name? cs
    let (name, rest) ← match equals? rest with
      | some rest => some (name, rest)
      | none =>
        if name = "export" then
          (name? (Text.trimStart rest)).bind fun (name, rest) => (equals? rest).map (name, ·)
        else none
    match rest with
    | [] => some (some (name, ""))
    | '#' :: _ => some (some (name, ""))
    | rest => (value? value rest).map fun v => some (name, v)

/-! ## Files -/

/-- Adds the assignments of lines to an environment, up to the first bad line. `stated` are the assignments so far:
where a variable is not set, its last one counts. -/
def extendLines (env stated : Environment) : List (Option (List Char)) → Environment
  | [] => env
  | none :: _ => env
  | some line :: rest =>
    let value (name : String) : String := (get? env name).getD ((get? stated name).getD "")
    match line? value line with
    | none => env
    | some none => extendLines env stated rest
    | some (some (name, v)) =>
      let env' := if (get? env name).isSome then env else env ++ [(name, v)]
      extendLines env' ((name, v) :: stated) rest

/-- The text without a byte order mark in front. -/
def withoutMark : List Char → List Char
  | c :: cs => if c.toNat = 0xfeff then cs else c :: cs
  | [] => []

/-- Adds the variables of a file to an environment. -/
def extend (env : Environment) (text : String) : Environment :=
  extendLines env [] (logicalLines [] .plain (physicalLines (withoutMark text.toList)))

end TxLoad.EnvFile
