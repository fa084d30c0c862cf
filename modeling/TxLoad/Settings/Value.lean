import TxLoad.Decimal.Shortest
import TxLoad.Selection
import TxLoad.Settings.Basic

/-!
# Reading settings from values

- `Value` is what a source of settings can hold under a name;
- `Dialect` says how values are taken: a strict dialect takes each kind of value only for what it is, a lenient one
  turns one kind into another where that makes sense;
- `Settings.read` reads all settings in a dialect; a name that is missing leaves the standard setting.
-/

namespace TxLoad

/-- What a source of settings can hold under a name. -/
inductive Value where
  | null
  | flag (b : Bool)
  | integer (n : Int)
  | real (x : Binary64)
  | text (s : String)
  | list (values : List Value)
  | table (entries : List (String × Value))

namespace Value

/-- Whether there is nothing. -/
def isNull : Value → Bool
  | .null => true
  | _ => false

/-- The value under a name, the last one of several. -/
def lookup (entries : List (String × Value)) (name : String) : Option Value :=
  (entries.reverse.find? (·.1 = name)).map (·.2)

/-- What a value is, in the words of an error; the numbers are described by the given functions. -/
def describe (null : String) (integer : Int → String) (real : Binary64 → String) : Value → String
  | .null => null
  | .flag b => "boolean " ++ "\x60" ++ toString b ++ "\x60"
  | .integer n => integer n
  | .real x => "floating point \x60" ++ real x ++ "\x60"
  | .text s => "string " ++ Text.quoted s
  | .list _ => "sequence"
  | .table _ => "map"

/-- An integer of no particular width, in the words of an error. -/
def describeInteger (n : Int) : String := "integer \x60" ++ toString n ++ "\x60"

end Value

/-! ## Dialects -/

/-- How values of type `ν` are taken; `ε` says why one cannot be. -/
structure Dialect (ν ε : Type) where
  isNull : ν → Bool
  flag : ν → Except ε Bool
  word64 : ν → Except ε Nat
  word16 : ν → Except ε Nat
  text : ν → Except ε String
  hosts : ν → Except ε (List String)
  selection : ν → Except ε Selection

/-- A text that may be missing. -/
def Dialect.optionalText {ν ε : Type} (d : Dialect ν ε) (v : ν) : Except ε (Option String) :=
  if d.isNull v then .ok none else (d.text v).map some

/-- What a list of hosts is called in an error. -/
def hostsWanted : String := "a sequence of RPC hosts or a string with comma-separated hosts"

/-- The failure of an unknown selection, in its own words. -/
def readSelection (raw : String) : Except String Selection :=
  match Selection.parse raw with
  | .ok s => .ok s
  | .error e => .error e.message

/-! ## All settings -/

/-- Reads one setting; a missing one is the standard one. -/
def Settings.readOne {ν ε α : Type} (get : String → Option ν) (name : String) (take : ν → Except ε α)
    (standard : α) : Except (String × ε) α :=
  match get name with
  | none => .ok standard
  | some v =>
    match take v with
    | .ok a => .ok a
    | .error e => .error (name, e)

/-- Reads all settings, in the order of their names; an error comes with the name it belongs to. -/
def Settings.read {ν ε : Type} (d : Dialect ν ε) (get : String → Option ν) : Except (String × ε) Settings := do
  let base : Settings := .standard
  return {
    baseFeeGwei := ← readOne get "base_fee_gwei" d.word64 base.baseFeeGwei
    count := ← readOne get "count" d.word64 base.count
    debug := ← readOne get "debug" d.flag base.debug
    endpointSelection := ← readOne get "endpoint_selection" d.selection base.endpointSelection
    gasBurnerAddress := ← readOne get "gas_burner_address" d.optionalText base.gasBurnerAddress
    gasUnitsToBurn := ← readOne get "gas_units_to_burn" d.word64 base.gasUnitsToBurn
    jsonLogs := ← readOne get "json_logs" d.flag base.jsonLogs
    logLevel := ← readOne get "log_level" d.text base.logLevel
    maxFailures := ← readOne get "max_consecutive_failures" d.word64 base.maxFailures
    maxPending := ← readOne get "max_pending" d.word64 base.maxPending
    maxWallets := ← readOne get "max_wallets" d.word64 base.maxWallets
    metricsPort := ← readOne get "metrics_port" d.word16 base.metricsPort
    randomValue := ← readOne get "random_value" d.flag base.randomValue
    receiptPoll := ← readOne get "receipt_poll_ms" d.word64 base.receiptPoll
    relayAddress := ← readOne get "relay_address" d.text base.relayAddress
    rollupId := ← readOne get "rollup_id" d.text base.rollupId
    rpcHosts := ← readOne get "rpc_hosts" d.hosts base.rpcHosts
    scenario := ← readOne get "scenario" d.text base.scenario
    sendViaRelay := ← readOne get "send_via_relay" d.flag base.sendViaRelay
    slotSeconds := ← readOne get "slot_duration_secs" d.word64 base.slotSeconds
    throughput := ← readOne get "throughput" d.word64 base.throughput
    timeoutSeconds := ← readOne get "timeout_secs" d.word64 base.timeoutSeconds
    tipFeeGwei := ← readOne get "tip_fee_gwei" d.word64 base.tipFeeGwei
    transferTarget := ← readOne get "transfer_target" d.optionalText base.transferTarget
    transferValue := ← readOne get "transfer_value" d.text base.transferValue
    walletKey := ← readOne get "wallet_key" d.text base.walletKey
    walletMinimum := ← readOne get "wallet_minfund" d.text base.walletMinimum
    walletPrefund := ← readOne get "wallet_prefund" d.text base.walletPrefund
    walletSeed := ← readOne get "wallet_seed" d.text base.walletSeed
    walletSelection := ← readOne get "wallet_selection" d.selection base.walletSelection }

/-- The names of the settings, in the order in which a list gives them. -/
def Settings.names : List String := [
  "debug", "json_logs", "log_level", "metrics_port", "rpc_hosts", "receipt_poll_ms", "endpoint_selection",
  "wallet_key", "wallet_seed", "wallet_selection", "max_wallets", "wallet_prefund", "wallet_minfund", "scenario",
  "count", "throughput", "slot_duration_secs", "max_pending", "timeout_secs", "base_fee_gwei", "tip_fee_gwei",
  "max_consecutive_failures", "send_via_relay", "relay_address", "rollup_id", "gas_units_to_burn",
  "gas_burner_address", "transfer_target", "transfer_value", "random_value"]

end TxLoad
