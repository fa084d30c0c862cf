import TxLoad.Proofs.Settings.Arguments
import TxLoad.Settings.Value

/-!
# What settings are read

- A setting that `Comes` is taken from the value under its name, or else it is the standard one; it depends on no other
  name (`Settings.readOne_eq_ok_iff`);
- **settings that are read are those that are `Taken`**, each by itself (`Settings.read_eq_ok_iff`).
-/

namespace TxLoad

namespace Settings

/-- **A setting is taken** from the value under its name, or else it is the standard one. -/
def Comes {ν ε α : Type} (get : String → Option ν) (take : ν → Except ε α) (name : String) (standard a : α) : Prop :=
  match get name with
  | some v => take v = .ok a
  | none => a = standard

/-- **Each setting is taken** from the value under its name, or else it is the standard one. -/
structure Taken {ν ε : Type} (d : Dialect ν ε) (get : String → Option ν) (s : Settings) : Prop where
  baseFeeGwei : Comes get d.word64 "base_fee_gwei" standard.baseFeeGwei s.baseFeeGwei
  count : Comes get d.word64 "count" standard.count s.count
  debug : Comes get d.flag "debug" standard.debug s.debug
  endpointSelection : Comes get d.selection "endpoint_selection" standard.endpointSelection s.endpointSelection
  gasBurnerAddress : Comes get d.optionalText "gas_burner_address" standard.gasBurnerAddress s.gasBurnerAddress
  gasUnitsToBurn : Comes get d.word64 "gas_units_to_burn" standard.gasUnitsToBurn s.gasUnitsToBurn
  jsonLogs : Comes get d.flag "json_logs" standard.jsonLogs s.jsonLogs
  logLevel : Comes get d.text "log_level" standard.logLevel s.logLevel
  maxFailures : Comes get d.word64 "max_consecutive_failures" standard.maxFailures s.maxFailures
  maxPending : Comes get d.word64 "max_pending" standard.maxPending s.maxPending
  maxWallets : Comes get d.word64 "max_wallets" standard.maxWallets s.maxWallets
  metricsPort : Comes get d.word16 "metrics_port" standard.metricsPort s.metricsPort
  randomValue : Comes get d.flag "random_value" standard.randomValue s.randomValue
  receiptPoll : Comes get d.word64 "receipt_poll_ms" standard.receiptPoll s.receiptPoll
  relayAddress : Comes get d.text "relay_address" standard.relayAddress s.relayAddress
  rollupId : Comes get d.text "rollup_id" standard.rollupId s.rollupId
  rpcHosts : Comes get d.hosts "rpc_hosts" standard.rpcHosts s.rpcHosts
  scenario : Comes get d.text "scenario" standard.scenario s.scenario
  sendViaRelay : Comes get d.flag "send_via_relay" standard.sendViaRelay s.sendViaRelay
  slotSeconds : Comes get d.word64 "slot_duration_secs" standard.slotSeconds s.slotSeconds
  throughput : Comes get d.word64 "throughput" standard.throughput s.throughput
  timeoutSeconds : Comes get d.word64 "timeout_secs" standard.timeoutSeconds s.timeoutSeconds
  tipFeeGwei : Comes get d.word64 "tip_fee_gwei" standard.tipFeeGwei s.tipFeeGwei
  transferTarget : Comes get d.optionalText "transfer_target" standard.transferTarget s.transferTarget
  transferValue : Comes get d.text "transfer_value" standard.transferValue s.transferValue
  walletKey : Comes get d.text "wallet_key" standard.walletKey s.walletKey
  walletMinimum : Comes get d.text "wallet_minfund" standard.walletMinimum s.walletMinimum
  walletPrefund : Comes get d.text "wallet_prefund" standard.walletPrefund s.walletPrefund
  walletSeed : Comes get d.text "wallet_seed" standard.walletSeed s.walletSeed
  walletSelection : Comes get d.selection "wallet_selection" standard.walletSelection s.walletSelection

variable {ν ε α : Type} {get : String → Option ν} {take : ν → Except ε α} {name : String} {standard a : α}

theorem readOne_eq_ok_iff : readOne get name take standard = .ok a ↔ Comes get take name standard a := by
  unfold readOne Comes
  cases get name with
  | none => simp [eq_comm]
  | some v =>
    dsimp only
    cases take v <;> simp

/-- **Settings that are read are those that are taken.** -/
theorem read_eq_ok_iff {d : Dialect ν ε} {s : Settings} : Settings.read d get = .ok s ↔ Taken d get s := by
  constructor
  · intro read
    unfold Settings.read at read
    iterate 30 obtain ⟨_, _, read⟩ := exists_of_bind read
    cases read
    constructor <;> (apply readOne_eq_ok_iff.1; assumption)
  · intro taken
    cases taken
    simp only [← readOne_eq_ok_iff] at *
    unfold Settings.read
    simp only [*]
    rfl

end Settings

end TxLoad
