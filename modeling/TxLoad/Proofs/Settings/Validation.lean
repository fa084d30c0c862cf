import TxLoad.Settings.Basic

/-!
# Which settings are valid

- `Introduced` settings pass the checks that come before the amounts;
- settings are valid if they are introduced, both of their amounts can be read, and their options are valid
  (`validate_eq_ok_iff`);
- an amount that cannot be read is what such settings are refused for (`validate_of_bad_prefund`,
  `validate_of_bad_minimum`).
-/

namespace TxLoad.Settings

/-- Nodes and a key are configured, and a rollup where a relay is used. -/
structure Introduced (s : Settings) : Prop where
  hosts : s.rpcHosts ≠ []
  key : Text.strip s.walletKey ≠ ""
  rollup : s.sendViaRelay = true → Text.strip s.rollupId ≠ ""

/-- Settings that are introduced are left to the amounts and the options. -/
theorem validate_of_introduced {s : Settings} (h : s.Introduced) : s.validate = (do
    let _ ← s.prefund
    let _ ← s.minimum
    s.options.validate) := by
  have hosts : s.rpcHosts.isEmpty = false := by simpa using h.hosts
  have key : (Text.strip s.walletKey).isEmpty = false := by simpa using h.key
  have rollup : (s.sendViaRelay && (Text.strip s.rollupId).isEmpty) = false := by
    cases relayed : s.sendViaRelay with
    | false => rfl
    | true => simpa using h.rollup relayed
  unfold validate
  rw [hosts, key, rollup]
  rfl

/-- Settings that are not introduced are not valid. -/
theorem validate_of_not_introduced {s : Settings} (h : ¬ s.Introduced) :
    ∃ fault, s.validate = .error (.config fault) := by
  unfold validate
  by_cases hosts : s.rpcHosts.isEmpty = true
  · rw [if_pos hosts]
    exact ⟨_, rfl⟩
  rw [if_neg hosts]
  by_cases key : (Text.strip s.walletKey).isEmpty = true
  · rw [if_pos key]
    exact ⟨_, rfl⟩
  rw [if_neg key]
  by_cases rollup : (s.sendViaRelay && (Text.strip s.rollupId).isEmpty) = true
  · rw [if_pos rollup]
    exact ⟨_, rfl⟩
  · exact absurd ⟨by simpa using hosts, by simpa using key, fun relayed => by simpa [relayed] using rollup⟩ h

theorem validate_of_bad_prefund {s : Settings} (h : s.Introduced) (unread : Wei.parse? s.walletPrefund = none) :
    s.validate = .error (.config (.badPrefund s.walletPrefund)) := by
  rw [validate_of_introduced h, prefund, unread]
  rfl

theorem validate_of_bad_minimum {s : Settings} (h : s.Introduced) {n : Nat} (read : Wei.parse? s.walletPrefund = some n)
    (unread : Wei.parse? s.walletMinimum = none) : s.validate = .error (.config (.badMinimum s.walletMinimum)) := by
  rw [validate_of_introduced h, prefund, read, minimum, unread]
  rfl

theorem validate_of_read {s : Settings} (h : s.Introduced) {n m : Nat} (first : Wei.parse? s.walletPrefund = some n)
    (least : Wei.parse? s.walletMinimum = some m) : s.validate = s.options.validate := by
  rw [validate_of_introduced h, prefund, first, minimum, least]
  rfl

/-- **Settings are valid if they are introduced, both amounts can be read, and the options are valid.** -/
theorem validate_eq_ok_iff {s : Settings} : s.validate = .ok () ↔
    s.Introduced ∧ (∃ n, Wei.parse? s.walletPrefund = some n) ∧ (∃ m, Wei.parse? s.walletMinimum = some m) ∧
      s.options.validate = .ok () := by
  constructor
  · intro valid
    have introduced : s.Introduced := by
      refine Classical.byContradiction fun other => ?_
      obtain ⟨fault, refused⟩ := validate_of_not_introduced other
      rw [refused] at valid
      cases valid
    cases first : Wei.parse? s.walletPrefund with
    | none =>
      rw [validate_of_bad_prefund introduced first] at valid
      cases valid
    | some n =>
      cases least : Wei.parse? s.walletMinimum with
      | none =>
        rw [validate_of_bad_minimum introduced first least] at valid
        cases valid
      | some m => exact ⟨introduced, ⟨n, rfl⟩, ⟨m, rfl⟩, (validate_of_read introduced first least).symm.trans valid⟩
  · rintro ⟨introduced, ⟨n, first⟩, ⟨m, least⟩, valid⟩
    exact (validate_of_read introduced first least).trans valid

end TxLoad.Settings
