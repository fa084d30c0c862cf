import TxLoad.Address
import TxLoad.Log.Filter
import TxLoad.Url.Parse

/-!
# Failures

- `KeyFault`: why a text is no secret key;
- `ConfigFault`: what is wrong with the configuration of a run;
- `Failure`: everything that can go wrong, with `Failure.message` for people, `Failure.detailed` for the exit of the
  program, and `Failure.isFatal`: whether it ends the whole run rather than one dispatch.
-/

namespace TxLoad

/-- Why a text is no secret key. -/
inductive KeyFault where
  | hex (fault : Address.HexFault)
  | outOfRange
deriving DecidableEq, Repr

/-- What the fault says. -/
def KeyFault.message : KeyFault → String
  | .hex fault => fault.message
  | .outOfRange => "signature error"

/-- What is wrong with a configuration. -/
inductive ConfigFault where
  | noHosts
  | noWalletKey
  | relayWithoutRollup
  | badPrefund (raw : String)
  | badMinimum (raw : String)
  | noStopCondition
  | zeroSlot
  | noEndpoints
  | badNodeUrl (raw : String) (fault : Url.Fault)
  | badRelayAddress (raw : String) (fault : Url.Fault)
  | unknownSelection (raw : String)
  | unknownScenario (name : String)
  | badTransferTarget (raw : String) (fault : Address.HexFault)
  | badTransferValue (raw : String)
  | noBurnerAddress
  | badBurnerAddress (raw : String) (fault : Address.HexFault)
  | zeroGasUnits
  | badLogFilter (spec : String) (fault : Log.Filter.Fault)
  | badWalletKey (fault : KeyFault)
  | source (text : String)
deriving DecidableEq, Repr

/-- What the fault says. -/
def ConfigFault.message : ConfigFault → String
  | .noHosts => "No RPC hosts configured"
  | .noWalletKey => "WALLET_KEY is missing"
  | .relayWithoutRollup => "send_via_relay requires a rollup_id"
  | .badPrefund raw => "Invalid wallet_prefund: " ++ raw
  | .badMinimum raw => "Invalid wallet_minfund: " ++ raw
  | .noStopCondition => "neither total count nor throughput limit set, must define at least one of them"
  | .zeroSlot => "slot duration must be non-zero when pacing"
  | .noEndpoints => "No RPC endpoints configured"
  | .badNodeUrl raw fault => "Invalid RPC URL " ++ raw ++ ": " ++ fault.message
  | .badRelayAddress raw fault => "Invalid relay address " ++ raw ++ ": " ++ fault.message
  | .unknownSelection raw => "Unknown selection mode: " ++ raw
  | .unknownScenario name => "Unknown scenario '" ++ name ++ "', expected one of: eoatx, gasburnertx"
  | .badTransferTarget raw fault => "Invalid transfer target " ++ raw ++ ": " ++ fault.message
  | .badTransferValue raw => "Invalid transfer value: " ++ raw
  | .noBurnerAddress => "gasburnertx requires gas_burner_address"
  | .badBurnerAddress raw fault => "Invalid gas burner address " ++ raw ++ ": " ++ fault.message
  | .zeroGasUnits => "gas_units_to_burn must be > 0"
  | .badLogFilter spec fault => "Invalid log filter '" ++ spec ++ "': " ++ fault.message
  | .badWalletKey fault => "Invalid wallet key: " ++ fault.message
  | .source text => text

/-- What can go wrong. -/
inductive Failure where
  | config (fault : ConfigFault)
  | initialization (reason : String)
  | connection (reason : String)
  | noAccounts
  | noHealthyEndpoints (total : Nat)
  | payload (reason : String)
  | signing (reason : String)
  | relay (reason : String)
  | transaction (hash reason : String)
  | insufficientFunds (required available : String)
  | confirmationTimeout (index : Nat) (hash : String) (seconds : Nat)
  | dispatchStalled (failures : Nat) (last : String)
deriving DecidableEq, Repr

namespace Failure

/-- The failure in words. -/
def message : Failure → String
  | config fault => "Configuration error: " ++ fault.message
  | initialization reason => "Initialization failed: " ++ reason
  | connection reason => "Connection failed to endpoint: " ++ reason
  | noAccounts => "No worker accounts configured"
  | noHealthyEndpoints total => "No healthy endpoints available (" ++ toString total ++ " configured)"
  | payload reason => "Payload construction failed: " ++ reason
  | signing reason => "Signing failed: " ++ reason
  | relay reason => "Relay submission failed: " ++ reason
  | transaction hash reason => "Transaction failed: " ++ Text.quoted hash ++ ", reason: " ++ reason
  | insufficientFunds required available =>
    "Insufficient funds. Required: " ++ required ++ ", Available: " ++ available
  | confirmationTimeout index hash seconds =>
    "Confirmation timeout for tx #" ++ toString index ++ " (" ++ hash ++ ") after " ++ toString seconds ++ "s"
  | dispatchStalled failures last =>
    "Dispatch stalled after " ++ toString failures ++ " consecutive failed sends, last: " ++ last

/-- The name of the kind of failure. -/
def kind : Failure → String
  | config _ => "Config"
  | initialization _ => "Initialization"
  | connection _ => "Connection"
  | noAccounts => "NoAccounts"
  | noHealthyEndpoints _ => "NoHealthyEndpoints"
  | payload _ => "Payload"
  | signing _ => "Signing"
  | relay _ => "Relay"
  | transaction _ _ => "Transaction"
  | insufficientFunds _ _ => "InsufficientFunds"
  | confirmationTimeout _ _ _ => "ConfirmationTimeout"
  | dispatchStalled _ _ => "DispatchStalled"

/-- A name with a text in parentheses. -/
def withText (name text : String) : String := name ++ "(" ++ Text.quoted text ++ ")"

/-- A name with named parts in braces. -/
def withParts (name : String) (parts : List (String × String)) : String :=
  name ++ " \x7b " ++ ", ".intercalate (parts.map fun (field, value) => field ++ ": " ++ value) ++ " \x7d"

/-- The failure with its kind and all its parts, texts quoted. -/
def detailed (e : Failure) : String :=
  match e with
  | config fault => withText e.kind fault.message
  | initialization reason | connection reason | payload reason | signing reason | relay reason =>
    withText e.kind reason
  | noAccounts => e.kind
  | noHealthyEndpoints total => withParts e.kind [("total", toString total)]
  | transaction hash reason => withParts e.kind [("hash", Text.quoted hash), ("reason", Text.quoted reason)]
  | insufficientFunds required available =>
    withParts e.kind [("required", Text.quoted required), ("available", Text.quoted available)]
  | confirmationTimeout index hash seconds =>
    withParts e.kind
      [("index", toString index), ("hash", Text.quoted hash), ("timeout_secs", toString seconds)]
  | dispatchStalled failures last =>
    withParts e.kind [("failures", toString failures), ("last_error", Text.quoted last)]

/-- Whether the failure ends the whole run rather than one dispatch. -/
def isFatal : Failure → Bool
  | config _ | noAccounts | confirmationTimeout _ _ _ | dispatchStalled _ _ => true
  | _ => false

end Failure

end TxLoad
