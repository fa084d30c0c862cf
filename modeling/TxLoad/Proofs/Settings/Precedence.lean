import TxLoad.Program
import TxLoad.Proofs.Settings.Flags
import TxLoad.Proofs.Settings.Reading
import TxLoad.Proofs.Settings.Sources

/-!
# The command line over the environment over the settings file

- Settings after flags are those that are `Overridden`: each by its own flag (`CommandLine.overridden_iff`);
- what stands under a name comes from the environment, or else from the settings file (`Settings.value_eq`,
  `Settings.lookup_join_file`);
- **each setting of a call comes from its flag, or else from the environment, or else from the file, or else it is the
  standard one** (`settings_by_precedence`).
-/

namespace TxLoad

/-! ## From flags to settings -/

namespace CommandLine

/-- **A flag overrides a setting** if it is given; else the setting is what it was. -/
def Overrides {α : Type} (value : Given → Option α) (flag : Option Given) (below a : α) : Prop :=
  match flag with
  | some g => value g = some a
  | none => a = below

/-- **Each setting is overridden by its own flag**. A switch can be turned on but not off; what has no flag stays. -/
structure Overridden (given : List (String × Given)) (base s : Settings) : Prop where
  metricsPort : Overrides Given.number? (lookup given "metrics-port") base.metricsPort s.metricsPort
  rpcHosts : Overrides Given.hosts? (lookup given "rpchost") base.rpcHosts s.rpcHosts
  walletSeed : Overrides Given.text? (lookup given "seed") base.walletSeed s.walletSeed
  maxWallets : Overrides Given.number? (lookup given "max-wallets") base.maxWallets s.maxWallets
  scenario : Overrides Given.text? (lookup given "scenario") base.scenario s.scenario
  count : Overrides Given.number? (lookup given "count") base.count s.count
  throughput : Overrides Given.number? (lookup given "throughput") base.throughput s.throughput
  maxPending : Overrides Given.number? (lookup given "max-pending") base.maxPending s.maxPending
  timeoutSeconds : Overrides Given.number? (lookup given "timeout") base.timeoutSeconds s.timeoutSeconds
  baseFeeGwei : Overrides Given.number? (lookup given "basefee") base.baseFeeGwei s.baseFeeGwei
  tipFeeGwei : Overrides Given.number? (lookup given "tipfee") base.tipFeeGwei s.tipFeeGwei
  relayAddress : Overrides Given.text? (lookup given "relay-address") base.relayAddress s.relayAddress
  rollupId : Overrides Given.text? (lookup given "rollup-id") base.rollupId s.rollupId
  debug : s.debug = true ↔ base.debug = true ∨ (lookup given "debug").isSome
  jsonLogs : s.jsonLogs = true ↔ base.jsonLogs = true ∨ (lookup given "json-logs").isSome
  sendViaRelay : s.sendViaRelay = true ↔ base.sendViaRelay = true ∨ (lookup given "send-via-relay").isSome
  logLevel : s.logLevel = base.logLevel
  receiptPoll : s.receiptPoll = base.receiptPoll
  endpointSelection : s.endpointSelection = base.endpointSelection
  walletKey : s.walletKey = base.walletKey
  walletSelection : s.walletSelection = base.walletSelection
  walletPrefund : s.walletPrefund = base.walletPrefund
  walletMinimum : s.walletMinimum = base.walletMinimum
  slotSeconds : s.slotSeconds = base.slotSeconds
  maxFailures : s.maxFailures = base.maxFailures
  gasUnitsToBurn : s.gasUnitsToBurn = base.gasUnitsToBurn
  gasBurnerAddress : s.gasBurnerAddress = base.gasBurnerAddress
  transferTarget : s.transferTarget = base.transferTarget
  transferValue : s.transferValue = base.transferValue
  randomValue : s.randomValue = base.randomValue

/-- A setting is overridden where it is the value of its flag, if that has one, and else what it was. -/
theorem overrides_iff {α : Type} {value : Given → Option α} {flag : Option Given} {below a : α}
    (has : ∀ g, flag = some g → ∃ b, value g = some b) :
    Overrides value flag below a ↔ a = (flag.bind value).getD below := by
  unfold Overrides
  cases flag with
  | none => rfl
  | some g =>
    obtain ⟨b, valued⟩ := has g rfl
    simp [valued, eq_comm]

theorem switch_iff {a b : Bool} {flag : Option Given} :
    (a = true ↔ b = true ∨ flag.isSome) ↔ a = (b || flag.isSome) := by
  rw [← Bool.or_eq_true, ← Bool.eq_iff_iff]

section Parse

variable {args : List String} {given : List (String × Given)} {name : String}

theorem number_iff (parsed : parse args = .ok given)
    (takes : ∀ f ∈ Flag.all, f.name = name → f.kind = .word64 ∨ f.kind = .word16) {below n : Nat} :
    Overrides Given.number? (lookup given name) below n ↔ n = (number? given name).getD below := by
  rw [number?_eq]
  exact overrides_iff fun _ found => exists_number parsed takes found

theorem text_iff (parsed : parse args = .ok given) (takes : ∀ f ∈ Flag.all, f.name = name → f.kind = .text)
    {below t : String} : Overrides Given.text? (lookup given name) below t ↔ t = (text? given name).getD below := by
  rw [text?_eq]
  exact overrides_iff fun _ found => exists_text parsed takes found

theorem hosts_iff (parsed : parse args = .ok given) (takes : ∀ f ∈ Flag.all, f.name = name → f.kind = .hosts)
    {below hosts : List String} :
    Overrides Given.hosts? (lookup given name) below hosts ↔ hosts = (hosts? given name).getD below := by
  rw [hosts?_eq]
  exact overrides_iff fun _ found => exists_hosts parsed takes found

/-- **Settings after accepted flags are those that are overridden.** -/
theorem overridden_iff (parsed : parse args = .ok given) {base s : Settings} :
    Overridden given base s ↔ s = apply given base := by
  constructor
  · intro h
    cases s
    rw [apply, Settings.mk.injEq]
    exact ⟨switch_iff.1 h.debug, switch_iff.1 h.jsonLogs, h.logLevel,
      (number_iff parsed (by decide)).1 h.metricsPort, (hosts_iff parsed (by decide)).1 h.rpcHosts, h.receiptPoll,
      h.endpointSelection, h.walletKey, (text_iff parsed (by decide)).1 h.walletSeed, h.walletSelection,
      (number_iff parsed (by decide)).1 h.maxWallets, h.walletPrefund, h.walletMinimum,
      (text_iff parsed (by decide)).1 h.scenario, (number_iff parsed (by decide)).1 h.count,
      (number_iff parsed (by decide)).1 h.throughput, h.slotSeconds, (number_iff parsed (by decide)).1 h.maxPending,
      (number_iff parsed (by decide)).1 h.timeoutSeconds, (number_iff parsed (by decide)).1 h.baseFeeGwei,
      (number_iff parsed (by decide)).1 h.tipFeeGwei, h.maxFailures, switch_iff.1 h.sendViaRelay,
      (text_iff parsed (by decide)).1 h.relayAddress, (text_iff parsed (by decide)).1 h.rollupId, h.gasUnitsToBurn,
      h.gasBurnerAddress, h.transferTarget, h.transferValue, h.randomValue⟩
  · rintro rfl
    constructor
    -- a flag with a value, a switch, or no flag
    all_goals first
      | exact (number_iff parsed (by decide)).2 rfl
      | exact (text_iff parsed (by decide)).2 rfl
      | exact (hosts_iff parsed (by decide)).2 rfl
      | exact switch_iff.2 rfl
      | rfl

end Parse

/-- **The same flags a second time change nothing.** -/
theorem apply_apply (given : List (String × Given)) (s : Settings) : apply given (apply given s) = apply given s := by
  have again : ∀ {α : Type} (o : Option α) (a : α), o.getD (o.getD a) = o.getD a := by
    intro α o a
    cases o <;> rfl
  simp only [apply, again, Bool.or_assoc, Bool.or_self]

end CommandLine

/-! ## All sources -/

theorem mapError_eq_ok_iff {ε ε' α : Type} {x : Except ε α} {f : ε → ε'} {a : α} :
    x.mapError f = .ok a ↔ x = .ok a := by
  cases x <;> simp [Except.mapError]

namespace Settings

/-- The value under a name, from the settings file and the environment over it. -/
def value (file : Option Layer) (env : EnvFile.Environment) : String → Option Sourced :=
  Sourced.lookup (Layer.join (file.toList ++ [.ofEnvironment env]))

variable {formats : List Layer.Format} {args : List String} {files : Files} {env : EnvFile.Environment}
  {path : Option String} {s : Settings}

/-- There is one settings file, or none. -/
theorem exists_file {layers : List Layer} (read : fileLayers formats files path = .ok layers) :
    ∃ file : Option Layer, layers = file.toList := by
  unfold fileLayers at read
  split at read
  · next name text format _ =>
    cases parsed : Layer.ofFile name text format with
    | error e =>
      rw [parsed] at read
      cases read
    | ok l =>
      rw [parsed] at read
      cases read
      exact ⟨some l, rfl⟩
  · cases read
  · cases read
    exact ⟨none, rfl⟩

/-- Settings that are loaded are taken from the settings file and the environment. -/
theorem load_eq_ok_iff : load formats files env path = .ok s ↔ ∃ file, fileLayers formats files path = .ok file.toList ∧
    Taken Lenient.dialect (value file (environment files env)) s := by
  have ofLayers_eq_ok_iff : ∀ layers,
      ofLayers layers = .ok s ↔ Taken Lenient.dialect (Sourced.lookup (Layer.join layers)) s := by
    intro layers
    rw [← read_eq_ok_iff, ofLayers]
    cases Settings.read Lenient.dialect (Sourced.lookup (Layer.join layers)) <;> simp
  unfold load
  cases read : fileLayers formats files path with
  | error e => simp
  | ok layers =>
    obtain ⟨file, rfl⟩ := exists_file read
    rw [ofLayers_eq_ok_iff]
    constructor
    · intro taken
      exact ⟨file, rfl, taken⟩
    · rintro ⟨file', same, taken⟩
      rw [value, ← Except.ok.inj same] at taken
      exact taken

/-- The settings of a call are those of its sources after its flags. -/
theorem settings_eq_ok_iff : Program.settings formats args env files = .ok s ↔ ∃ given base,
    CommandLine.parse args = .ok given ∧ load formats files env (CommandLine.configPath given) = .ok base ∧
    s = CommandLine.apply given base := by
  unfold Program.settings
  constructor
  · intro called
    obtain ⟨given, parsed, rest⟩ := exists_of_bind called
    obtain ⟨base, loaded, last⟩ := exists_of_bind rest
    cases last
    exact ⟨given, base, mapError_eq_ok_iff.1 parsed, mapError_eq_ok_iff.1 loaded, rfl⟩
  · rintro ⟨given, base, parsed, loaded, rfl⟩
    rw [mapError_eq_ok_iff.2 parsed]
    show (load formats files env (CommandLine.configPath given)).mapError Exit.failed >>= _ = _
    rw [mapError_eq_ok_iff.2 loaded]
    rfl

section Names

variable {name : String} {file : Option Layer}

/-- A value comes from the environment, or else it is what it is without it. -/
theorem value_eq (mem : name ∈ names) (plain : EnvFile.Plain env name) :
    value file env name =
      ((EnvFile.setting? env name).map fun t => .leaf (some "the environment") (.text t)).or
        (Sourced.lookup (Layer.join file.toList) name) := by
  rw [value, Layer.lookup_join_concat, (Layer.replaces_ofEnvironment plain).overlay_eq (ofName_of_mem name mem),
    Layer.value?_ofEnvironment]

/-- Without the environment a value is the one in the settings file. -/
theorem lookup_join_file (mem : name ∈ names) (replaces : ∀ l ∈ file, l.Replaces name) :
    Sourced.lookup (Layer.join file.toList) name = file.bind (·.value? name) := by
  cases file with
  | none => rfl
  | some l =>
    rw [Option.toList_some, ← List.nil_append [l], Layer.lookup_join_concat,
      (replaces l rfl).overlay_eq (ofName_of_mem name mem)]
    exact Option.or_none

end Names

end Settings

/-- **Each setting of a call comes from its flag**, or else from the environment, or else from the settings file, or
else it is the standard one, whatever formats there are for settings files. Settings do not depend on what is said of
others; variables of the nearest file `.env` count where they are not set already; switches can be turned on but not
off; and the same flags a second time change nothing. -/
theorem settings_by_precedence :
    -- each setting is overridden by its own flag, and taken from the value under its own name
    (∀ formats args env files s, Program.settings formats args env files = .ok s ↔ ∃ given file base,
      CommandLine.parse args = .ok given ∧
      Settings.fileLayers formats files (CommandLine.configPath given) = .ok (Option.toList file) ∧
      Settings.Taken Lenient.dialect (Settings.value file (Settings.environment files env)) base ∧
      CommandLine.Overridden given base s) ∧
    -- the value under a name comes from the environment, or else from the file
    (∀ name ∈ Settings.names, ∀ (file : Option Layer) (env : EnvFile.Environment), EnvFile.Plain env name →
      Settings.value file env name =
        ((EnvFile.setting? env name).map fun t => .leaf (some "the environment") (.text t)).or
          (Sourced.lookup (Layer.join file.toList) name)) ∧
    (∀ name ∈ Settings.names, ∀ file : Option Layer, (∀ l ∈ file, l.Replaces name) →
      Sourced.lookup (Layer.join file.toList) name = file.bind (·.value? name)) ∧
    -- whatever leads into the value, what is said of other settings does not matter
    (∀ name (file : Option Layer) (env : EnvFile.Environment), Settings.value file env name =
      Sourced.lookup (Layer.join ((file.toList ++ [Layer.ofEnvironment env]).map (Layer.about name))) name) ∧
    -- the variables that count are those that are set, and those of the nearest file that are not
    (∀ (files : Files) (env : EnvFile.Environment), (∀ steps, files.above? ".env" steps = none) →
      Settings.environment files env = env) ∧
    (∀ (files : Files) (env : EnvFile.Environment) steps place text, files.above? ".env" steps = some (place, text) →
      (∀ nearer < steps, files.above? ".env" nearer = none) →
      ∃ added, Settings.environment files env = env ++ added ∧
        EnvFile.Adds env (EnvFile.statements env text) added) ∧
    ∀ given s, CommandLine.apply given (CommandLine.apply given s) = CommandLine.apply given s := by
  refine ⟨?fields, fun _ mem _ _ => Settings.value_eq mem, fun _ mem _ => Settings.lookup_join_file mem,
    fun _ _ _ => (Layer.lookup_join_about _).symm, ?unset, ?set, CommandLine.apply_apply⟩
  case fields =>
    intro formats args env files s
    rw [Settings.settings_eq_ok_iff]
    constructor
    · rintro ⟨given, base, parsed, loaded, last⟩
      obtain ⟨file, read, taken⟩ := Settings.load_eq_ok_iff.1 loaded
      exact ⟨given, file, base, parsed, read, taken, (CommandLine.overridden_iff parsed).2 last⟩
    · rintro ⟨given, file, base, parsed, read, taken, overridden⟩
      exact ⟨given, base, parsed, Settings.load_eq_ok_iff.2 ⟨file, read, taken⟩,
        (CommandLine.overridden_iff parsed).1 overridden⟩
  case unset =>
    intro files env missing
    rw [Settings.environment, Files.nearest?_eq_none_iff.2 missing]
  case set =>
    intro files env steps place text there missing
    rw [Settings.environment, Files.nearest?_eq_some_iff.2 ⟨steps, there, missing⟩]
    exact EnvFile.extend_adds env text

-- the flag over the environment over the nearest file `.env` over the settings file
example : ((Program.settings Layer.Format.known ["--count", "7"] [("LOADGEN_COUNT", "5"), ("loadgen_throughput", "6")]
      [("../../.env", "LOADGEN_MAX_PENDING=1"), ("../.env", "LOADGEN_COUNT=8\nLOADGEN_MAX_PENDING=9"),
        ("config.json", "\x7b\x22throughput\x22: 3, \x22max_pending\x22: 2, \x22max_wallets\x22: 4\x7d")]).toOption.map
      fun s => [s.count, s.throughput, s.maxPending, s.maxWallets, s.timeoutSeconds]) = some [7, 6, 9, 4, 120] := by
  decide +kernel

/-- Values of a file and an environment: in both, in the file alone, and in neither. -/
theorem settings_by_precedence_three :
    let file : Layer := ⟨[("throughput", .integer 3), ("max_wallets", .integer 4)], "config.json"⟩
    let env : EnvFile.Environment := [("PATH", "/bin"), ("Loadgen_Throughput", "6")]
    (file.Replaces "throughput" ∧ file.Replaces "max_wallets" ∧ file.Replaces "count") ∧
      (EnvFile.Plain env "throughput" ∧ EnvFile.Plain env "max_wallets" ∧ EnvFile.Plain env "count") ∧
      Settings.value (some file) env "throughput" = some (.leaf (some "the environment") (.text "6")) ∧
      Settings.value (some file) env "max_wallets" = some (.leaf (some "config.json") (.integer 4)) ∧
      Settings.value (some file) env "count" = none := by
  intro file env
  obtain ⟨-, upper, below, -⟩ := settings_by_precedence
  have plain : ∀ name, EnvFile.Plain env name := by
    intro name v mem rest spelled root
    simp only [env, List.mem_cons, List.not_mem_nil, or_false] at mem
    rcases mem with rfl | rfl
    · have start : (Text.lowercase "PATH").toList.head? = some 'l' := by simp [spelled]
      exact absurd start (by decide +kernel)
    · have whole : "loadgen_" ++ rest = "loadgen_" ++ "throughput" := spelled.symm.trans (by decide +kernel)
      rw [(String.append_right_inj _).1 whole] at root ⊢
      exact root
  have replaces : ∀ name, ∀ l ∈ some file, l.Replaces name := by
    rintro name l ⟨⟩
    refine ⟨fun e mem root => ?_, fun v entries mem => ?_⟩
    · simp only [file, List.mem_cons, List.not_mem_nil, or_false] at mem
      rcases mem with rfl | rfl <;> exact root
    · simp only [file, List.mem_cons, List.not_mem_nil, or_false] at mem
      rcases mem with same | same <;> cases same <;> exact Value.noConfusion
  have value := fun name mem => (upper name mem (some file) env (plain name)).trans
    (congrArg _ (below name mem (some file) (replaces name)))
  refine ⟨⟨replaces _ _ rfl, replaces _ _ rfl, replaces _ _ rfl⟩, ⟨plain _, plain _, plain _⟩,
    (value "throughput" (by decide)).trans ?_, (value "max_wallets" (by decide)).trans ?_,
    (value "count" (by decide)).trans ?_⟩
  · rfl
  · rfl
  · rfl

end TxLoad
