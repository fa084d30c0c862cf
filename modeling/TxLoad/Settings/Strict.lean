import TxLoad.Settings.Value

/-!
# Settings taken for what they are

The strict dialect takes a number only for a number, a text only for a text. `Settings.ofValue` reads settings from
a table, or from a list in the order of `Settings.names`.
-/

namespace TxLoad.Strict

/-- Why a value cannot be taken. -/
inductive Fault where
  | wrongKind (found : Value) (wanted : String)
  | outOfRange (n : Int) (wanted : String)
  | tooLong (length : Nat)
  | refused (reason : String)

/-- What a value is, in the words of an error. -/
def describe : Value → String := Value.describe "null" Value.describeInteger Binary64.scientific

/-- What the fault says. -/
def Fault.message : Fault → String
  | .wrongKind found wanted => "invalid type: " ++ describe found ++ ", expected " ++ wanted
  | .outOfRange n wanted => "invalid value: " ++ Value.describeInteger n ++ ", expected " ++ wanted
  | .tooLong length => "invalid length " ++ toString length ++ ", expected fewer elements in array"
  | .refused reason => reason

/-- Takes a natural number of at most the given size. -/
def word (wanted : String) (greatest : Nat) : Value → Except Fault Nat
  | .integer n => if 0 ≤ n ∧ n ≤ greatest then .ok n.toNat else .error (.outOfRange n wanted)
  | v => .error (.wrongKind v wanted)

/-- Takes a truth value. -/
def flag : Value → Except Fault Bool
  | .flag b => .ok b
  | v => .error (.wrongKind v "a boolean")

/-- Takes a text. -/
def text : Value → Except Fault String
  | .text s => .ok s
  | v => .error (.wrongKind v "a string")

/-- Takes a list of hosts, or a text that holds one. -/
def hosts : Value → Except Fault (List String)
  | .text s => .ok (Url.parseList s)
  | .list vs => return (← vs.mapM text).flatMap Url.parseList
  | v => .error (.wrongKind v hostsWanted)

/-- Takes the name of a selection. -/
def selection (v : Value) : Except Fault Selection := do
  match readSelection (← text v) with
  | .ok s => return s
  | .error reason => throw (.refused reason)

/-- The strict dialect. -/
def dialect : Dialect Value Fault where
  isNull := Value.isNull
  flag := flag
  word64 := word "u64" word64Max
  word16 := word "u16" 65535
  text := text
  hosts := hosts
  selection := selection

/-- Reads settings from the values of their names in order; the rest are standard. -/
def ofList (vs : List Value) : Except Fault Settings :=
  (Settings.read dialect (Value.lookup (Settings.names.zip vs))).mapError (·.2)

/-- Reads settings from a value. Of several faults in a list the first one counts. -/
def settings : Value → Except Fault Settings
  | .table entries => (Settings.read dialect (Value.lookup entries)).mapError (·.2)
  | .list vs => do
    for i in List.range vs.length do
      discard (ofList (vs.take i))
    let s ← ofList vs
    if Settings.names.length < vs.length then throw (.tooLong vs.length)
    return s
  | v => .error (.wrongKind v "struct LoadSettings")

end TxLoad.Strict
