import TxLoad.Settings.Sourced
import TxLoad.Text.Lowercase

/-!
# Settings taken for what they can be read as

The lenient dialect turns values into the kind that is wanted: texts into numbers and truth values, numbers into
texts, fractions into the nearest whole number. What it refuses it describes by the width of the number at hand, and
tells where it comes from.
-/

namespace TxLoad.Lenient

/-- Why a value cannot be taken. -/
inductive Fault where
  | wrongKind (found : Value) (wanted : String) (origin : Option String)
  | tooLarge (n : Nat)
  | noHosts (found : Value)
  | refused (reason : String)
  | inElement (position : Nat) (fault : Fault)

/-- An integer and its width, in the words of an error. -/
def describeWide (n : Int) : String :=
  (if 0x7fffffffffffffff < n then "64-bit unsigned " else "64-bit ") ++ Value.describeInteger n

/-- What a value is, in the words of an error. -/
def describe : Value → String := Value.describe "unit value" describeWide Binary64.plain

/-- What the fault says. -/
def Fault.message : Fault → String
  | .wrongKind found wanted _ => "invalid type: " ++ describe found ++ ", expected " ++ wanted
  | .tooLarge n =>
    "invalid type: 64-bit unsigned " ++ Value.describeInteger n ++ ", expected an unsigned 16 bit integer"
  | .noHosts found =>
    "invalid type: " ++ Value.describe "unit value" Value.describeInteger Binary64.pointed found ++ ", expected " ++
      hostsWanted
  | .refused reason => reason
  | .inElement _ fault => fault.message

/-- Where the value comes from, if the error tells. -/
def Fault.origin : Fault → Option String
  | .wrongKind _ _ origin => origin
  | .tooLarge _ | .noHosts _ | .refused _ => none
  | .inElement _ fault => fault.origin

/-- The name under which the value stood, down to the element of a list. -/
def Fault.place (name : String) : Fault → String
  | .inElement i _ => name ++ "[" ++ toString i ++ "]"
  | _ => name

/-- A natural number in digits, with an optional plus sign, of at most the given size. -/
def numeral? (greatest : Nat) (cs : List Char) : Option Nat :=
  let digits := match cs with
    | '+' :: rest => rest
    | _ => cs
  if digits.isEmpty || !digits.all Char.isDigit then none
  else
    let n := digits.foldl (fun n c => 10 * n + (c.toNat - 48)) 0
    if n ≤ greatest then some n else none

/-- Takes a natural number of 64 bits. -/
def word64 (s : Sourced) : Except Fault Nat :=
  match s.shape with
  | .integer n =>
    if 0 ≤ n then .ok n.toNat
    else .error (.wrongKind (.integer n) "an unsigned 64 bit or less integer" s.origin)
  | .flag b => .ok b.toNat
  | .real x => .ok x.toWord
  | .text t =>
    let word := Text.lowercase t
    if ["true", "on", "yes"].contains word then .ok 1
    else if ["false", "off", "no"].contains word then .ok 0
    else match numeral? word64Max t.toList with
      | some n => .ok n
      | none => .error (.wrongKind (.text t) "an integer" s.origin)
  | v => .error (.wrongKind v "an integer" s.origin)

/-- Takes a natural number of 16 bits. -/
def word16 (s : Sourced) : Except Fault Nat := do
  let n ← word64 s
  if 65535 < n then throw (.tooLarge n)
  return n

/-- Takes a truth value. -/
def flag (s : Sourced) : Except Fault Bool :=
  match s.shape with
  | .flag b => .ok b
  | .integer n => .ok (n ≠ 0)
  | .real x => .ok !x.isZero
  | .text t =>
    let word := Text.lowercase t
    if ["1", "true", "on", "yes"].contains word then .ok true
    else if ["0", "false", "off", "no"].contains word then .ok false
    else .error (.wrongKind (.text word) "a boolean" s.origin)
  | v => .error (.wrongKind v "a boolean" s.origin)

/-- Takes a text. -/
def text (s : Sourced) : Except Fault String :=
  match s.shape with
  | .text t => .ok t
  | .flag b => .ok (toString b)
  | .integer n => .ok (toString n)
  | .real x => .ok x.plain
  | v => .error (.wrongKind v "a string" s.origin)

/-- Takes the texts of a list, counted from `i`. -/
def texts : Nat → List Sourced → Except Fault (List String)
  | _, [] => .ok []
  | i, s :: rest => do
    let t ← (text s).mapError (.inElement i)
    return t :: (← texts (i + 1) rest)

/-- Takes a list of hosts, or a text that holds one. -/
def hosts : Sourced → Except Fault (List String)
  | .leaf _ (.text t) => .ok (Url.parseList t)
  | .list _ parts => return (← texts 0 parts).flatMap Url.parseList
  | s => .error (.noHosts s.shape)

/-- Takes the name of a selection. -/
def selection (s : Sourced) : Except Fault Selection := do
  match readSelection (← text s) with
  | .ok mode => return mode
  | .error reason => throw (.refused reason)

/-- The lenient dialect. -/
def dialect : Dialect Sourced Fault where
  isNull s := s.shape.isNull
  flag := flag
  word64 := word64
  word16 := word16
  text := text
  hosts := hosts
  selection := selection

end TxLoad.Lenient
