import TxLoad.Program
import TxLoad.Proofs.Run.Pacing
import TxLoad.Proofs.Settings.Validation

/-!
# What valid settings are good for

Settings are checked once, before anything happens. Later they derive the workers, name the nodes, make the funding
plan, start the run and pace it.

- Workers are derived as many as are asked for, or a worker has no key (`derive_cases`); every host becomes a node
  (`length_ofUrls`);
- `ahead?` is the pacing rule with divisions that may be refused; none is (`ahead?_eq`);
- `Ready` settings are good for all that comes later;
- **settings are valid if a key is configured and they are ready** (`validate_eq_ok_iff_ready`).
-/

namespace TxLoad

/-! ## Workers -/

namespace Registry

/-- What keeps a key from being derived is a failure to sign. -/
theorem worker_error {root : SigningKey} {seed : String} {index : Nat} {e : Failure}
    (failed : root.worker seed index = .error e) : ∃ reason, e = .signing reason := by
  unfold SigningKey.worker at failed
  split at failed
  · cases failed
  · cases failed
    exact ⟨_, rfl⟩

/-- What keeps keys from being derived is a failure to sign. -/
theorem workerKeys_error {root : SigningKey} {seed : String} {count : Nat} {e : Failure}
    (failed : workerKeys root seed count = .error e) : ∃ reason, e = .signing reason := by
  unfold workerKeys at failed
  generalize List.range count = indices at failed
  induction indices with
  | nil => cases failed
  | cons index indices ih =>
    rw [List.mapM_cons] at failed
    cases first : root.worker seed index with
    | error e' =>
      rw [first] at failed
      cases failed
      exact worker_error first
    | ok key =>
      cases rest : indices.mapM (root.worker seed) with
      | error e' =>
        rw [first, rest] at failed
        cases failed
        exact ih rest
      | ok keys =>
        rw [first, rest] at failed
        cases failed

/-- As many keys are derived as are asked for. -/
theorem length_workerKeys {root : SigningKey} {seed : String} {count : Nat} {keys : List SigningKey}
    (derived : workerKeys root seed count = .ok keys) : keys.length = count := by
  unfold workerKeys at derived
  suffices general : ∀ indices : List Nat, ∀ keys, indices.mapM (root.worker seed) = .ok keys →
      keys.length = indices.length by
    simpa using general _ _ derived
  intro indices
  induction indices with
  | nil =>
    intro keys derived
    cases derived
    rfl
  | cons index indices ih =>
    intro keys derived
    rw [List.mapM_cons] at derived
    cases first : root.worker seed index with
    | error e =>
      rw [first] at derived
      cases derived
    | ok key =>
      cases rest : indices.mapM (root.worker seed) with
      | error e =>
        rw [first, rest] at derived
        cases derived
      | ok others =>
        rw [first, rest] at derived
        cases derived
        simp [ih others rest]

/-- **At least one worker is derived, as many as are asked for, or some key cannot be derived.** -/
theorem derive_cases (root : SigningKey) (chainId : Nat) (seed : String) {count : Nat} (some : 1 ≤ count) :
    (∃ r, derive root chainId seed count = .ok r ∧ r.workers.size = count) ∨
      ∃ reason, derive root chainId seed count = .error (.signing reason) := by
  unfold derive
  cases derived : workerKeys root seed count with
  | error e =>
    obtain ⟨reason, rfl⟩ := workerKeys_error derived
    exact .inr ⟨reason, rfl⟩
  | ok keys =>
    have length := length_workerKeys derived
    have filled : keys.isEmpty = false := by
      cases keys with
      | nil =>
        rw [← length] at some
        cases some
      | cons key keys => rfl
    left
    refine ⟨⟨.ofKey root chainId, (keys.map (Account.ofKey · chainId)).toArray, 0⟩, ?_, by simpa using length⟩
    simp only [bind, Except.bind, filled]
    rfl

end Registry

/-! ## Nodes -/

namespace Network.Node

/-- Every URL becomes a node. -/
theorem length_ofUrlsFrom {wait count position : Nat} {urls : List String} {nodes : List Node}
    (named : ofUrlsFrom wait count position urls = .ok nodes) : nodes.length = urls.length := by
  induction urls generalizing position nodes with
  | nil =>
    cases named
    rfl
  | cons url urls ih =>
    rw [ofUrlsFrom] at named
    split at named
    · cases named
    · cases rest : ofUrlsFrom wait count (position + 1) urls with
      | error e =>
        rw [rest] at named
        cases named
      | ok others =>
        rw [rest] at named
        cases named
        simp [ih rest]

theorem length_ofUrls {urls : List String} {wait : Nat} {nodes : List Node} (named : ofUrls urls wait = .ok nodes) :
    nodes.length = urls.length :=
  length_ofUrlsFrom named

end Network.Node

theorem Pool.ofTotal_of_pos {total : Nat} (some : 0 < total) :
    Pool.ofTotal total = .ok ⟨total, List.range total, 0⟩ := by
  rw [Pool.ofTotal, if_neg (Nat.ne_of_gt some)]

/-! ## Pacing -/

namespace Dispatch

/-- A quotient, unless the divisor is zero. -/
def quotient? (n d : Nat) : Option Nat := if d = 0 then none else some (n / d)

theorem quotient?_of_pos (n : Nat) {d : Nat} (some : 0 < d) : quotient? n d = .some (n / d) :=
  if_neg (Nat.ne_of_gt some)

/-- The pacing rule with divisions that may be refused. -/
def ahead? (accounted elapsed slot throughput : Nat) : Option Bool :=
  if throughput = 0 then some false
  else do
    let ended ← quotient? elapsed (max slot 1)
    let perSlot ← quotient? accounted (min (min ended word64Max + 1) word64Max)
    return throughput ≤ perSlot

/-- **No division of the pacing rule is refused.** -/
theorem ahead?_eq (accounted elapsed slot throughput : Nat) :
    ahead? accounted elapsed slot throughput = some (ahead accounted elapsed slot throughput) := by
  unfold ahead? ahead
  by_cases paced : throughput = 0
  · rw [if_pos paced, paced]
    rfl
  · have lasting : 0 < max slot 1 := Nat.lt_of_lt_of_le Nat.one_pos (Nat.le_max_right slot 1)
    have begun : 0 < min (min (elapsed / max slot 1) word64Max + 1) word64Max := slotsBegun_pos elapsed slot
    rw [if_neg paced, quotient?_of_pos elapsed lasting, Option.bind_eq_bind, Option.bind_some,
      quotient?_of_pos accounted begun, decide_eq_true (Nat.pos_of_ne_zero paced), Bool.true_and]
    rfl

end Dispatch

namespace Settings

open Dispatch (ahead ahead?)

/-! ## Amounts and options -/

/-- There is a plan if both amounts can be read. -/
theorem plan_eq_ok_iff {s : Settings} {p : Funding.Plan} : s.plan = .ok p ↔
    Wei.parse? s.walletPrefund = some p.prefund ∧ Wei.parse? s.walletMinimum = some p.minimum := by
  obtain ⟨first, least⟩ := p
  unfold plan prefund minimum
  cases Wei.parse? s.walletPrefund with
  | none => simp [orFault, bind, Except.bind]
  | some n =>
    cases Wei.parse? s.walletMinimum with
    | none => simp [orFault, bind, Except.bind]
    | some m => simp [orFault, bind, Except.bind, pure, Except.pure]

/-- Options are valid if there is a count or a throughput, and a throughput has slots that last. -/
theorem validate_options_iff {s : Settings} : s.options.validate = .ok () ↔
    (0 < s.count ∨ 0 < s.throughput) ∧ (0 < s.throughput → 0 < s.slotSeconds) := by
  unfold Dispatch.Options.validate options
  dsimp only
  split
  · next h => simp [h]
  · next h =>
    split
    · next h' => simp; omega
    · next h' => simp; omega

theorem one_le_walletCount {s : Settings} (h : 0 < s.count ∨ 0 < s.throughput) : 1 ≤ s.walletCount := by
  unfold walletCount maxDerivedWallets walletsPerThroughput word64Max
  split
  · assumption
  · split <;> omega

/-- No more workers are derived than there may be, unless their number is configured. -/
theorem walletCount_le {s : Settings} (free : s.maxWallets = 0) : s.walletCount ≤ maxDerivedWallets := by
  unfold walletCount
  rw [if_neg (by omega)]
  split <;> exact Nat.min_le_right _ _

/-! ## Readiness -/

/-- **Settings that are good for all that comes later.** -/
structure Ready (s : Settings) : Prop where
  /-- There is a worker. -/
  workers : 1 ≤ s.walletCount
  /-- A number of workers that is not configured is bounded. -/
  bounded : s.maxWallets = 0 → s.walletCount ≤ maxDerivedWallets
  /-- Whatever the key and the chain, there are accounts, unless a worker has no key. -/
  accounts : ∀ root chainId seed,
    (∃ r, Registry.derive root chainId seed s.walletCount = .ok r ∧ r.workers.size = s.walletCount) ∨
      ∃ reason, Registry.derive root chainId seed s.walletCount = .error (.signing reason)
  /-- A host is configured. -/
  hosts : s.rpcHosts ≠ []
  /-- The nodes of the hosts make a pool. -/
  pool : ∀ nodes, Network.Node.ofUrls s.rpcHosts s.receiptPoll = .ok nodes →
    ∃ pool, Pool.ofTotal nodes.length = .ok pool
  /-- There is a funding plan. -/
  plan : ∃ p, s.plan = .ok p
  /-- The options are valid. -/
  options : s.options.validate = .ok ()
  /-- A run with these options starts. -/
  launch : ∀ (setup : Dispatch.Setup) pool registry now, setup.options = s.options →
    Dispatch.Run.launch setup pool registry now = .ok (.start setup pool registry now)
  /-- Slots last where there is a throughput. -/
  slots : 0 < s.throughput → 0 < s.options.slot
  /-- At every instant, whatever is accounted for by then, the pacing rule divides by what is not zero. -/
  pace : ∀ accounted elapsed, ahead? accounted elapsed s.options.slot s.options.throughput =
    some (ahead accounted elapsed s.options.slot s.options.throughput)
  /-- A relay has a rollup. -/
  rollup : s.sendViaRelay = true → Text.strip s.rollupId ≠ ""

/-- Valid settings are ready. -/
theorem ready_of_validate {s : Settings} (valid : s.validate = .ok ()) : s.Ready := by
  obtain ⟨introduced, ⟨n, first⟩, ⟨m, least⟩, options⟩ := validate_eq_ok_iff.1 valid
  obtain ⟨limited, lasting⟩ := validate_options_iff.1 options
  have workers : 1 ≤ s.walletCount := one_le_walletCount limited
  exact {
    workers
    bounded := walletCount_le
    accounts := fun root chainId seed => Registry.derive_cases root chainId seed workers
    hosts := introduced.hosts
    pool := by
      intro nodes named
      have filled : 0 < nodes.length := by
        rw [Network.Node.length_ofUrls named]
        exact List.length_pos_iff.2 introduced.hosts
      exact ⟨_, Pool.ofTotal_of_pos filled⟩
    plan := ⟨⟨n, m⟩, plan_eq_ok_iff.2 ⟨first, least⟩⟩
    options
    launch := by
      intro setup pool registry now same
      rw [Dispatch.Run.launch, same, options]
      rfl
    slots := fun paced => Nat.mul_pos (lasting paced) (by decide)
    pace := fun accounted elapsed => Dispatch.ahead?_eq accounted elapsed _ _
    rollup := introduced.rollup }

theorem Ready.validate {s : Settings} (h : s.Ready) (key : Text.strip s.walletKey ≠ "") : s.validate = .ok () := by
  obtain ⟨p, planned⟩ := h.plan
  obtain ⟨first, least⟩ := plan_eq_ok_iff.1 planned
  exact validate_eq_ok_iff.2 ⟨⟨h.hosts, key, h.rollup⟩, ⟨_, first⟩, ⟨_, least⟩, h.options⟩

/-- **Settings are valid if a key is configured and they are ready for all that comes later.** -/
theorem validate_eq_ok_iff_ready (s : Settings) : s.validate = .ok () ↔ Text.strip s.walletKey ≠ "" ∧ s.Ready := by
  constructor
  · intro valid
    obtain ⟨introduced, -, -, -⟩ := validate_eq_ok_iff.1 valid
    exact ⟨introduced.key, ready_of_validate valid⟩
  · rintro ⟨key, ready⟩
    exact ready.validate key

end Settings

end TxLoad
