import TxLoad.Dispatch.Options
import TxLoad.Funding.Plan
import TxLoad.Key
import TxLoad.Scenario

/-!
# Settings

- `Settings` are the settings of a run, as they are configured;
- `Settings.validate` checks them before anything else happens;
- the other functions are what a run derives from them: the number of workers, the funding plan, the options, the
  scenario.
-/

namespace TxLoad

/-- The settings of a run. -/
structure Settings where
  debug : Bool
  jsonLogs : Bool
  logLevel : String
  metricsPort : Nat
  rpcHosts : List String
  receiptPoll : Nat
  endpointSelection : Selection
  walletKey : String
  walletSeed : String
  walletSelection : Selection
  maxWallets : Nat
  walletPrefund : String
  walletMinimum : String
  scenario : String
  count : Nat
  throughput : Nat
  slotSeconds : Nat
  maxPending : Nat
  timeoutSeconds : Nat
  baseFeeGwei : Nat
  tipFeeGwei : Nat
  maxFailures : Nat
  sendViaRelay : Bool
  relayAddress : String
  rollupId : String
  gasUnitsToBurn : Nat
  gasBurnerAddress : Option String
  transferTarget : Option String
  transferValue : String
  randomValue : Bool
deriving DecidableEq, Repr

namespace Settings

/-- The settings of a run for which nothing is configured. -/
def standard : Settings where
  debug := false
  jsonLogs := false
  logLevel := "info"
  metricsPort := 0
  rpcHosts := []
  receiptPoll := 1000
  endpointSelection := .byIndex
  walletKey := ""
  walletSeed := ""
  walletSelection := .byIndex
  maxWallets := 0
  walletPrefund := "5"
  walletMinimum := "2"
  scenario := "eoatx"
  count := 0
  throughput := 0
  slotSeconds := 12
  maxPending := 0
  timeoutSeconds := 120
  baseFeeGwei := 20
  tipFeeGwei := 2
  maxFailures := 100
  sendViaRelay := false
  relayAddress := "localhost:50051"
  rollupId := ""
  gasUnitsToBurn := 2000000
  gasBurnerAddress := none
  transferTarget := none
  transferValue := "20 gwei"
  randomValue := false

instance : Inhabited Settings := ⟨standard⟩

/-- A value, or a fault of the configuration. -/
def orFault {α : Type} (value : Option α) (fault : ConfigFault) : Except Failure α :=
  match value with
  | some a => .ok a
  | none => .error (.config fault)

/-! ## Wallets -/

/-- The most workers that are derived when their number is not configured. -/
def maxDerivedWallets : Nat := 1000

/-- The workers per dispatch of a slot when a run is only paced. -/
def walletsPerThroughput : Nat := 10

/-- The number of workers: what is configured, or scaled to the run and bounded. -/
def walletCount (s : Settings) : Nat :=
  if 0 < s.maxWallets then s.maxWallets
  else if 0 < s.count then min s.count maxDerivedWallets
  else min (min (s.throughput * walletsPerThroughput) word64Max) maxDerivedWallets

/-- What a worker receives in one transfer. -/
def prefund (s : Settings) : Except Failure Nat :=
  orFault (Wei.parse? s.walletPrefund) (.badPrefund s.walletPrefund)

/-- The balance below which a worker receives more. -/
def minimum (s : Settings) : Except Failure Nat :=
  orFault (Wei.parse? s.walletMinimum) (.badMinimum s.walletMinimum)

/-- The funding plan. -/
def plan (s : Settings) : Except Failure Funding.Plan := do
  let prefund ← s.prefund
  let minimum ← s.minimum
  return ⟨prefund, minimum⟩

/-- The key of the funding account. -/
def fundingKey (s : Settings) : Except Failure SigningKey :=
  match SigningKey.read (Text.strip s.walletKey) with
  | .ok key => .ok key
  | .error fault => .error (.config (.badWalletKey fault))

/-! ## The run -/

/-- The options of the run. -/
def options (s : Settings) : Dispatch.Options where
  count := s.count
  throughput := s.throughput
  slot := s.slotSeconds * 1000
  maxPending := s.maxPending
  timeout := if 0 < s.timeoutSeconds then some (s.timeoutSeconds * 1000) else none
  endpointSelection := s.endpointSelection
  walletSelection := s.walletSelection
  maxFailures := s.maxFailures

/-- The address of the relay. -/
def relayUrl (s : Settings) : String := Url.normalize s.relayAddress

/-- The fees that are set by hand. -/
def overrides (s : Settings) : Fee.Overrides := ⟨s.baseFeeGwei, s.tipFeeGwei⟩

/-- The level of the log. -/
def level (s : Settings) : String := Log.Filter.effectiveLevel s.logLevel s.debug

/-- Checks everything that has to hold before a run begins. -/
def validate (s : Settings) : Except Failure Unit := do
  if s.rpcHosts.isEmpty then throw (.config .noHosts)
  if (Text.strip s.walletKey).isEmpty then throw (.config .noWalletKey)
  if s.sendViaRelay && (Text.strip s.rollupId).isEmpty then throw (.config .relayWithoutRollup)
  let _ ← s.prefund
  let _ ← s.minimum
  s.options.validate

/-! ## The scenario -/

/-- The part of an optional text that counts, unless it is blank. -/
def present (raw : Option String) : Option String := raw.filter fun s => !(Text.strip s).isEmpty

/-- The scenario of transfers. -/
def transferScenario (s : Settings) : Except Failure Scenario := do
  let target ← match present s.transferTarget with
    | none => pure none
    | some raw =>
      match Address.read (Text.strip raw) with
      | .ok a => pure (some a)
      | .error fault => throw (.config (.badTransferTarget raw fault))
  let value ← orFault (Wei.parse? s.transferValue) (.badTransferValue s.transferValue)
  return .transfer target value s.randomValue

/-- The scenario of calls that burn gas. -/
def burnScenario (s : Settings) : Except Failure Scenario := do
  let raw ← orFault (present s.gasBurnerAddress) .noBurnerAddress
  let raw := Text.strip raw
  match Address.read raw with
  | .ok contract =>
    if s.gasUnitsToBurn = 0 then throw (.config .zeroGasUnits)
    return .burnGas contract s.gasUnitsToBurn
  | .error fault => throw (.config (.badBurnerAddress raw fault))

/-- The scenario of a name; case and blanks around it do not count. -/
def scenarioNamed (s : Settings) (name : String) : Except Failure Scenario :=
  match Text.lower (Text.strip name) with
  | "eoatx" => s.transferScenario
  | "gasburnertx" => s.burnScenario
  | other => .error (.config (.unknownScenario other))

end Settings

end TxLoad
