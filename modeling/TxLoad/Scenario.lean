import TxLoad.Funding.Plan
import TxLoad.Log.Entry
import TxLoad.Transaction

/-!
# Scenarios

A scenario says what each dispatch does. `Scenario.payload` is the payload of a dispatch: plain transfers, calls that
burn gas, or a written list of payloads for simulations.
-/

namespace TxLoad

/-- A written payload; without an address it goes back to its sender. -/
structure PayloadTemplate where
  destination : Option Destination
  value : Nat
  gas : Nat
  input : Bytes

/-- The payload of a template for a sender. -/
def PayloadTemplate.payload (t : PayloadTemplate) (sender : Address) : Payload :=
  ⟨t.destination.getD (.call sender), t.value, t.gas, t.input⟩

/-- The template of a transfer of nothing back to the sender. -/
def PayloadTemplate.plain : PayloadTemplate := ⟨none, 0, Payload.transferGas, []⟩

/-- What the dispatches of a run do. -/
inductive Scenario where
  | transfer (target : Option Address) (value : Nat) (randomValue : Bool)
  | burnGas (contract : Address) (units : Nat)
  | written (entries : List (Except Failure PayloadTemplate)) (needsFunding : Bool) (plan : Option Funding.Plan)

namespace Scenario

/-- The name of a scenario. -/
def name : Scenario → String
  | transfer _ _ _ => "eoatx"
  | burnGas _ _ => "gasburnertx"
  | written _ _ _ => "scripted"

/-- Whether the workers have to be funded before the run. -/
def needsFunding : Scenario → Bool
  | written _ needed _ => needed
  | _ => true

/-- The plan by which the workers are funded. -/
def fundingPlan (s : Scenario) (configured : Funding.Plan) : Funding.Plan :=
  match s with
  | written _ _ plan => plan.getD configured
  | _ => configured

/-- The gas that a burning call costs besides the units it burns. -/
def burnOverhead : Nat := 50000

/-- The gas limit of a call that burns the given units. -/
def burnGasLimit (units : Nat) : Nat := min (units + burnOverhead) word64Max

/-- The first four bytes of the digest of the called function's signature. -/
def burnSelector : Bytes := (Crypto.Keccak.digest (Bytes.ofText "burnGasUnits(uint256)")).take 4

/-- The value of a transfer; a random one is drawn from zero up to the configured value, itself included, but at most
the greatest 128-bit word. -/
def transferValue (value : Nat) (randomValue : Bool) (draw : Nat) : Nat :=
  if randomValue then draw % (min value word128Max + 1) else value

/-- The payload of dispatch `index` for a sender; `draw` is the random number at hand. -/
def payload (s : Scenario) (index : Nat) (sender : Address) (draw : Nat) : Except Failure Payload :=
  match s with
  | transfer target value randomValue =>
    .ok (.transfer (target.getD sender) (transferValue value randomValue draw))
  | burnGas contract units =>
    .ok ⟨.call contract, 0, burnGasLimit units, burnSelector ++ Bytes.ofNat 32 units⟩
  | written entries _ _ =>
    (entries.getD (index % entries.length) (.ok .plain)).map (·.payload sender)

/-- What is said when the payload of dispatch `index` is built. -/
def payloadLog (s : Scenario) (index : Nat) : List Log.Entry :=
  match s with
  | burnGas _ units =>
    [⟨"dispatch", .debug, "Gas units to burn", [("tx", .number (index + 1)), ("units", .number units)]⟩]
  | _ => []

end Scenario

end TxLoad
