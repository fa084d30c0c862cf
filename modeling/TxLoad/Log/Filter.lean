import TxLoad.Log.Entry
import TxLoad.Log.Pattern

/-!
# Log filters

- `Filter.spec`: the filter that a configured level stands for; a bare level keeps the transport libraries quiet;
- `Filter.directive` reads one directive: a level, or a target, a span in brackets with fields in braces, and a level;
- `Filter.parse`: the directives of a filter, or what is wrong with the first bad one;
- `Filter.enables`: whether a filter lets an entry through.
-/

namespace TxLoad.Log

/-- What stands behind a bare level, so that the transport libraries do not flood the log. -/
def quietModules : List String := [
  "h2=info", "hyper=info", "hyper_util=info", "reqwest=info", "rustls=info", "alloy_transport_http=info",
  "alloy_rpc_client=info"]

namespace Filter

/-- The filter that a configured level stands for: a text with a comma or an equals sign is taken as it is. -/
def spec (configured : String) : String :=
  let level := Text.strip configured
  let level := if level.isEmpty then "info" else level
  if level.contains ',' || level.contains '=' then level
  else ",".intercalate (level :: quietModules)

/-- The debug switch wins over the configured level. -/
def effectiveLevel (configured : String) (debug : Bool) : String := if debug then "debug" else configured

/-! ## Directives -/

/-- What is wrong with a directive. -/
inductive Fault where
  | badDirective
  | badLevel
  | badField (fault : Pattern.Fault)
deriving DecidableEq, Repr

/-- What the fault says. -/
def Fault.message : Fault → String
  | .badDirective => "invalid filter directive"
  | .badLevel =>
    "error parsing level filter: expected one of \"off\", \"error\", \"warn\", \"info\", \"debug\", \"trace\", " ++
      "or a number 0-5"
  | .badField fault => "invalid field filter: " ++ fault.message

/-- The greatest rank that a level lets through: a name in any case, or a number up to five. -/
def level? (cs : List Char) : Option Nat :=
  let digits := match cs with
    | '+' :: rest => rest
    | _ => cs
  if !digits.isEmpty && digits.all Char.isDigit then
    let n := digits.foldl (fun n c => 10 * n + (c.toNat - 48)) 0
    if n ≤ 5 then some n else none
  else ["off", "error", "warn", "info", "debug", "trace"].findIdx? (· = .ofList (cs.map Char.toLower))

/-- One directive: the targets it is about, the span and the fields it asks for, each with whether it asks for a value,
and the greatest rank it lets through. -/
structure Directive where
  target : Option String
  span : Option String
  fields : List (String × Bool)
  rank : Nat
deriving DecidableEq, Repr

/-- A level behind an equals sign; nothing there stands for everything. -/
def rankOf (cs : List Char) : Except Fault Nat :=
  if cs.isEmpty then .ok 5
  else match level? cs with
    | some rank => .ok rank
    | none => .error .badLevel

/-- Whether a text is a number without a sign: digits with a point and an exponent, an infinity, or none. -/
def isNumber (cs : List Char) : Bool :=
  let (whole, rest) := cs.span Char.isDigit
  let (fraction, rest) := match rest with
    | '.' :: rest => rest.span Char.isDigit
    | rest => ([], rest)
  let exponent := match rest with
    | _ :: '+' :: digits | _ :: '-' :: digits => digits
    | _ :: digits => digits
    | [] => []
  ["inf", "infinity", "nan"].contains (.ofList (cs.map Char.toLower)) ||
    (!(whole ++ fraction).isEmpty &&
      (rest.isEmpty || ("eE".contains (rest.headD ' ') && !exponent.isEmpty && exponent.all Char.isDigit)))

/-- Checks the value of a field: a pattern, unless it is a number with a plus sign. All other numbers are patterns. -/
def checkValue : List Char → Except Pattern.Fault Unit
  | '+' :: cs => if isNumber cs then .ok () else Pattern.check ('+' :: cs)
  | cs => Pattern.check cs

/-- Reads a field: its name, and a value up to a second equals sign. -/
def fieldOf (cs : List Char) : Except Fault (String × Bool) :=
  match Text.splitOnAny (· = '=') cs with
  | name :: value :: _ => do
    (checkValue value).mapError .badField
    return (.ofList name, true)
  | _ => if cs.isEmpty then .error .badDirective else .ok (.ofList cs, false)

/-! ## Reading a directive -/

/-- The part of a directive that is being read, and where it starts. -/
inductive Part where
  | none
  | name
  | span (start : Nat)
  | field (start : Nat)
  | behindField
  | behindSpan
  | level (start : Nat)
deriving DecidableEq, Repr

/-- The part that is being read, and what was read before it. -/
structure Reading where
  part : Part
  directive : Directive

/-- At the start nothing is asked for, and everything is let through. -/
def Reading.start : Reading := ⟨.none, none, none, [], 5⟩

/-- The characters with their places, counted in bytes. -/
def placed : Nat → List Char → List (Nat × Char)
  | _, [] => []
  | n, c :: cs => (n, c) :: placed (n + c.utf8Size) cs

/-- The part of a text from one place up to another. -/
def cut (text : List Char) (start stop : Nat) : List Char :=
  (placed 0 text).filterMap fun (n, c) => if start ≤ n && n < stop then some c else none

/-- The part of a text from a place on. -/
def cutFrom (text : List Char) (start : Nat) : List Char :=
  (placed 0 text).filterMap fun (n, c) => if start ≤ n then some c else none

/-- Whether a character can start the name of a target or a level. -/
def startsName (c : Char) : Bool := "-:_".contains c || Text.isAlphanumeric c

/-- Reads one character at its place; the parts that it ends are cut out of `text`. -/
def Reading.step (text : List Char) (r : Reading) : Nat × Char → Except Fault Reading
  | (n, c) =>
    match r.part with
    | .none =>
      if c = '[' then .ok { r with part := .span (n + 1) }
      else if startsName c then .ok { r with part := .name }
      else .error .badDirective
    | .name =>
      if c = '=' then .ok ⟨.level (n + 1), { r.directive with target := some (.ofList (cut text 0 n)) }⟩
      else if c = '[' then .ok ⟨.span (n + 1), { r.directive with target := some (.ofList (cut text 0 n)) }⟩
      else .ok r
    | .span start =>
      let name := cut text start n
      if c = ']' then .ok ⟨.behindSpan, { r.directive with span := some (.ofList name) }⟩
      else if c = '\x7b' then
        .ok ⟨.field (n + 1), { r.directive with span := if name.isEmpty then none else some (.ofList name) }⟩
      else .ok r
    | .field start =>
      if c = '\x7d' then do
        let field ← fieldOf (cut text start n)
        return ⟨.behindField, { r.directive with fields := r.directive.fields ++ [field] }⟩
      else .ok r
    | .behindField => if c = ']' then .ok { r with part := .behindSpan } else .error .badDirective
    | .behindSpan => if c = '=' then .ok { r with part := .level (n + 1) } else .error .badDirective
    | .level _ => .ok r

/-- The directive when the text is at its end. A name is a level if it can be, and else a target. -/
def Reading.finish (text : List Char) (r : Reading) : Except Fault Directive :=
  match r.part with
  | .name =>
    match level? text with
    | some rank => .ok { r.directive with rank }
    | none => .ok { r.directive with target := some (.ofList text) }
  | .level start => (rankOf (cutFrom text start)).map fun rank => { r.directive with rank }
  | .behindSpan => .ok r.directive
  | _ => .error .badDirective

/-- Reads one directive. The places of its parts are found without the blanks around it, but the parts are cut out of
the text with them: blanks in front shift all parts, and blanks at the end belong to the last one. -/
def directive (text : List Char) : Except Fault Directive := do
  let r ← (placed 0 (Text.trim text)).foldlM (Reading.step text) .start
  r.finish text

/-- Reads a filter: directives with commas between, of which the empty ones do not count. -/
def parse (filter : String) : Except Fault (List Directive) :=
  ((Text.splitOnAny (· = ',') filter.toList).filter fun text => !text.isEmpty).mapM directive

/-! ## Filtering -/

/-- Whether a directive is about an entry outside of all spans: it asks for no span and no value, the entry's target
starts with its target, and the entry has its fields. -/
def Directive.concerns (d : Directive) (e : Entry) : Bool :=
  let names := "message" :: e.fields.map (·.1)
  d.span.isNone && d.fields.all (fun (name, hasValue) => !hasValue && names.contains name) &&
    (d.target.getD "").toList.isPrefixOf e.target.toList

/-- Whether a directive says at least as much as another about which entries it concerns: a longer target, or as long a
one and at least as many fields. -/
def Directive.isAsNarrowAs (d b : Directive) : Bool :=
  let length (d : Directive) := (d.target.map String.length).getD 0
  length b < length d || (length b = length d && b.fields.length ≤ d.fields.length)

/-- Whether a filter lets an entry through: of the directives that concern it the narrowest decides, the later one of
equally narrow ones. -/
def enables (filter : List Directive) (e : Entry) : Bool :=
  let narrowest := (filter.filter (·.concerns e)).foldl (fun (best : Option Directive) d =>
    match best with
    | some b => if d.isAsNarrowAs b then some d else some b
    | none => some d) none
  match narrowest with
  | some d => e.level.rank ≤ d.rank
  | none => false

end Filter

end TxLoad.Log
