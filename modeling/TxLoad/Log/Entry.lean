/-!
# Log entries

An entry has a target (the part of the program that speaks), a level, a message and named fields. Operations that
have something to say return their entries in the order in which they are said.
-/

namespace TxLoad.Log

/-- How much an entry matters, from the most to the least. -/
inductive Level where
  | error
  | warn
  | info
  | debug
  | trace
deriving DecidableEq, Repr

/-- The level in capitals. -/
def Level.label : Level → String
  | .error => "ERROR"
  | .warn => "WARN"
  | .info => "INFO"
  | .debug => "DEBUG"
  | .trace => "TRACE"

/-- One for errors, up to five for traces. -/
def Level.rank : Level → Nat
  | .error => 1
  | .warn => 2
  | .info => 3
  | .debug => 4
  | .trace => 5

/-- The value of a field. -/
inductive Value where
  | number (n : Nat)
  | text (s : String)
  | flag (b : Bool)
deriving DecidableEq, Repr

/-- The value as text. -/
def Value.show : Value → String
  | .number n => toString n
  | .text s => s
  | .flag b => toString b

/-- One entry of the log. -/
structure Entry where
  target : String
  level : Level
  message : String
  fields : List (String × Value)
deriving DecidableEq, Repr

end TxLoad.Log
