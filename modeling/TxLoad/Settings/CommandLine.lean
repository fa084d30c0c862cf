import TxLoad.Settings.Lenient
import TxLoad.Text.Shown

/-!
# The command line

- `Flag` is one flag: its names and what it takes;
- `CommandLine.parse` reads arguments into the flags that are given, or says what is wrong;
- `CommandLine.apply` is the settings after the given flags; switches can be turned on but not off.
-/

namespace TxLoad

/-- What a flag takes. -/
inductive Flag.Kind where
  | switch
  | word64
  | word16
  | text
  | hosts
  | help
  | version
deriving DecidableEq, Repr

/-- A flag: its long name, its short name, and what it takes. -/
structure Flag where
  name : String
  short : Option Char
  kind : Flag.Kind
deriving DecidableEq, Repr

namespace Flag

/-- The flags there are. -/
def all : List Flag := [
  ⟨"config", none, .text⟩,
  ⟨"scenario", none, .text⟩,
  ⟨"rpchost", none, .hosts⟩,
  ⟨"count", some 'c', .word64⟩,
  ⟨"throughput", some 't', .word64⟩,
  ⟨"max-pending", none, .word64⟩,
  ⟨"max-wallets", none, .word64⟩,
  ⟨"timeout", none, .word64⟩,
  ⟨"basefee", none, .word64⟩,
  ⟨"tipfee", none, .word64⟩,
  ⟨"seed", none, .text⟩,
  ⟨"send-via-relay", none, .switch⟩,
  ⟨"relay-address", none, .text⟩,
  ⟨"rollup-id", none, .text⟩,
  ⟨"metrics-port", none, .word16⟩,
  ⟨"debug", some 'v', .switch⟩,
  ⟨"json-logs", none, .switch⟩,
  ⟨"help", some 'h', .help⟩,
  ⟨"version", some 'V', .version⟩]

/-- The flag of a long name. -/
def ofName? (name : String) : Option Flag := all.find? (·.name = name)

/-- The flag of a short name. -/
def ofShort? (c : Char) : Option Flag := all.find? (·.short = some c)

/-- Whether a value stands behind the flag. -/
def takesValue (f : Flag) : Bool :=
  match f.kind with
  | .switch | .help | .version => false
  | _ => true

/-- The name of the flag's value. -/
def placeholder (f : Flag) : String :=
  if f.kind = .hosts then "RPC_HOSTS"
  else .ofList (f.name.toList.map fun c => if c = '-' then '_' else c.toUpper)

/-- The flag as it is written, with its value. -/
def usage (f : Flag) : String :=
  if f.takesValue then "--" ++ f.name ++ " <" ++ f.placeholder ++ ">" else "--" ++ f.name

end Flag

namespace CommandLine

/-- What is wrong with a number. -/
inductive NumberFault where
  | empty
  | badDigit
  | tooLarge
  | tooSmall
  | outside (n : Int)
deriving DecidableEq, Repr

/-- What the fault says. -/
def NumberFault.message : NumberFault → String
  | .empty => "cannot parse integer from empty string"
  | .badDigit => "invalid digit found in string"
  | .tooLarge => "number too large to fit in target type"
  | .tooSmall => "number too small to fit in target type"
  | .outside n => toString n ++ " is not in 0..=65535"

/-- What can stop the reading of arguments. -/
inductive Stop where
  | unknown (arg : String)
  | noValue (f : Flag)
  | badValue (f : Flag) (raw : String) (fault : NumberFault)
  | repeated (f : Flag)
  | surplusValue (f : Flag) (raw : String)
  | help
  | version
deriving DecidableEq, Repr

/-- The name of the kind of stop. -/
def Stop.kind : Stop → String
  | .unknown _ => "UnknownArgument"
  | .noValue _ => "InvalidValue"
  | .badValue _ _ _ => "ValueValidation"
  | .repeated _ => "ArgumentConflict"
  | .surplusValue _ _ => "TooManyValues"
  | .help => "DisplayHelp"
  | .version => "DisplayVersion"

/-- What is shown of a stop, without control sequences that are given; help and version are no errors. -/
def Stop.message : Stop → String
  | .unknown arg => "error: unexpected argument '" ++ Text.shown arg ++ "' found"
  | .noValue f => "error: a value is required for '" ++ f.usage ++ "' but none was supplied"
  | .badValue f raw fault =>
    "error: invalid value '" ++ Text.shown raw ++ "' for '" ++ f.usage ++ "': " ++ fault.message
  | .repeated f => "error: the argument '" ++ f.usage ++ "' cannot be used multiple times"
  | .surplusValue f raw =>
    "error: unexpected value '" ++ Text.shown raw ++ "' for '" ++ f.usage ++ "' found; no more were expected"
  | .help | .version => ""

/-- Whether the stop is an error. -/
def Stop.isError : Stop → Bool
  | .help | .version => false
  | _ => true

/-! ## Values -/

/-- A flag that is given, with its value. -/
inductive Given where
  | switch
  | number (n : Nat)
  | text (s : String)
  | hosts (raw : List String)
deriving DecidableEq, Repr

/-- One more digit of a number; what is no digit is found before the number is too large. -/
def nextDigit (greatest n : Nat) (c : Char) : Except NumberFault Nat :=
  if !c.isDigit then .error .badDigit
  else if 10 * n + (c.toNat - 48) ≤ greatest then .ok (10 * n + (c.toNat - 48))
  else .error .tooLarge

/-- The value of a row of digits, which is not empty and of at most the given size. -/
def digits (greatest : Nat) (cs : List Char) : Except NumberFault Nat :=
  if cs.isEmpty then .error .badDigit else cs.foldlM (nextDigit greatest) 0

/-- The natural number of at most the given size that a text denotes. -/
def natural (greatest : Nat) (raw : String) : Except NumberFault Nat :=
  match raw.toList with
  | [] => .error .empty
  | '+' :: cs => digits greatest cs
  | cs => digits greatest cs

/-- The port that a text denotes; it is first read as an integer of 64 bits. -/
def port (raw : String) : Except NumberFault Nat :=
  match raw.toList with
  | '-' :: cs =>
    match digits 0x8000000000000000 cs with
    | .ok n => if n = 0 then .ok 0 else .error (.outside (-(n : Int)))
    | .error .tooLarge => .error .tooSmall
    | .error e => .error e
  | _ => do
    let n ← natural 0x7fffffffffffffff raw
    if 65535 < n then throw (.outside n)
    return n

/-- Reads the value of a flag. -/
def readValue (f : Flag) (raw : String) : Except Stop Given :=
  match f.kind with
  | .word64 => ((natural word64Max raw).map .number).mapError (.badValue f raw)
  | .word16 => ((port raw).map .number).mapError (.badValue f raw)
  | .text => .ok (.text raw)
  | .hosts => .ok (.hosts ((Text.splitOnAny (· = ',') raw.toList).map .ofList))
  | .switch | .help | .version => .ok .switch

/-! ## Arguments -/

/-- The flags that are given, by name, and the last flag whose value is an argument of its own, with that argument
once it came. Such a value is read only when the next flag or the end comes. -/
structure State where
  given : List (String × Given)
  pending : Option (Flag × Option String)

/-- Adds a flag; only hosts may be given again. -/
def State.add (s : State) (f : Flag) (raw : String) : Except Stop State := do
  match f.kind with
  | .help => throw .help
  | .version => throw .version
  | .hosts =>
    match s.given.find? (·.1 = f.name), ← readValue f raw with
    | some (_, .hosts before), .hosts more =>
      return { s with given := s.given.map fun g => if g.1 = f.name then (g.1, .hosts (before ++ more)) else g }
    | _, value => return { s with given := s.given ++ [(f.name, value)] }
  | _ =>
    if s.given.any (·.1 = f.name) then throw (.repeated f)
    return { s with given := s.given ++ [(f.name, ← readValue f raw)] }

/-- Reads the value that came for the pending flag; without one the flag is refused. -/
def State.settle (s : State) : Except Stop State :=
  match s.pending with
  | some (f, some raw) => { s with pending := none }.add f raw
  | some (f, none) => .error (.noValue f)
  | none => .ok s

/-- Reads a flag and the value that is attached to it, if there is one. -/
def State.flag (s : State) (f : Flag) (attached : Option String) : Except Stop State := do
  if f.takesValue then
    let s ← s.settle
    match attached with
    | some raw => s.add f raw
    | none => return { s with pending := some (f, none) }
  else
    let s ← s.settle
    s.add f ""

/-- Reads an argument with two dashes. -/
def State.long (s : State) (cs : List Char) : Except Stop State :=
  let (name, tail) := cs.span (· ≠ '=')
  let attached := match tail with
    | _ :: raw => some (String.ofList raw)
    | [] => none
  match Flag.ofName? (.ofList name), attached with
  | none, _ => .error (.unknown ("--" ++ .ofList name))
  | some f, some raw => if f.takesValue then s.flag f (some raw) else .error (.surplusValue f raw)
  | some f, none => s.flag f none

/-- Reads an argument with one dash: short flags, the last of which may take the rest as its value. -/
def State.short (s : State) : List Char → Except Stop State
  | [] => .ok s
  | c :: cs =>
    match Flag.ofShort? c with
    | none => .error (.unknown (.ofList ['-', c]))
    | some f =>
      if f.takesValue then
        s.flag f (match cs with
          | [] => none
          | '=' :: raw => some (.ofList raw)
          | raw => some (.ofList raw))
      else do
        let s ← s.flag f none
        s.short cs

/-- Reads the arguments; behind two dashes alone there are no flags. -/
def State.arguments (s : State) : List String → Except Stop State
  | [] => s.settle
  | arg :: args =>
    match arg.toList with
    | ['-', '-'] =>
      match args with
      | [] => s.settle
      | surplus :: _ => .error (.unknown surplus)
    | '-' :: '-' :: cs => do (← s.long cs).arguments args
    | '-' :: c :: cs => do (← s.short (c :: cs)).arguments args
    | _ =>
      match s.pending with
      | some (f, none) => { s with pending := some (f, some arg) }.arguments args
      | _ => .error (.unknown arg)

/-- Reads the arguments of the program. -/
def parse (args : List String) : Except Stop (List (String × Given)) :=
  (State.arguments ⟨[], none⟩ args).map (·.given)

/-! ## Flags and settings -/

/-- The value of a flag. -/
def lookup (given : List (String × Given)) (name : String) : Option Given :=
  (given.find? (·.1 = name)).map (·.2)

/-- The text of a flag. -/
def text? (given : List (String × Given)) (name : String) : Option String :=
  match lookup given name with
  | some (.text s) => some s
  | _ => none

/-- The number of a flag. -/
def number? (given : List (String × Given)) (name : String) : Option Nat :=
  match lookup given name with
  | some (.number n) => some n
  | _ => none

/-- The hosts of a flag. -/
def hosts? (given : List (String × Given)) (name : String) : Option (List String) :=
  match lookup given name with
  | some (.hosts raw) => some (raw.flatMap Url.parseList)
  | _ => none

/-- Whether a switch is given. -/
def isOn (given : List (String × Given)) (name : String) : Bool := (lookup given name).isSome

/-- The path of the settings file. -/
def configPath (given : List (String × Given)) : Option String := text? given "config"

/-- The settings after the flags. -/
def apply (given : List (String × Given)) (s : Settings) : Settings :=
  { s with
    rpcHosts := (hosts? given "rpchost").getD s.rpcHosts
    scenario := (text? given "scenario").getD s.scenario
    count := (number? given "count").getD s.count
    throughput := (number? given "throughput").getD s.throughput
    maxPending := (number? given "max-pending").getD s.maxPending
    maxWallets := (number? given "max-wallets").getD s.maxWallets
    timeoutSeconds := (number? given "timeout").getD s.timeoutSeconds
    baseFeeGwei := (number? given "basefee").getD s.baseFeeGwei
    tipFeeGwei := (number? given "tipfee").getD s.tipFeeGwei
    walletSeed := (text? given "seed").getD s.walletSeed
    relayAddress := (text? given "relay-address").getD s.relayAddress
    rollupId := (text? given "rollup-id").getD s.rollupId
    metricsPort := (number? given "metrics-port").getD s.metricsPort
    sendViaRelay := s.sendViaRelay || isOn given "send-via-relay"
    debug := s.debug || isOn given "debug"
    jsonLogs := s.jsonLogs || isOn given "json-logs" }

end CommandLine

end TxLoad
