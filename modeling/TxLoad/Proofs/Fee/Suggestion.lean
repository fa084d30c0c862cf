import TxLoad.Fee.Quote
import TxLoad.Network.Node
import Mathlib.Algebra.Order.BigOperators.Group.List
import Mathlib.Algebra.Group.Action.Defs
import Mathlib.Algebra.Order.Ring.Nat

/-!
# Suggested fees

- `nextBaseBound_eq`: the greatest base fee of the next block is an eighth more than the latest one, as long as nothing
  saturates;
- `meanTip_eq` and `between_of_mean`: the tip is the mean of the samples, and lies between the least and the greatest;
- `tip_le_feeCap`: the fee cap of a suggestion leaves room for its tip, also where it saturates;
- **what a node suggests can be used**: without fees set by hand the tip of a quote is not above its fee cap, and not
  below one gwei (`fees_usable`).
-/

namespace TxLoad

namespace Fee

/-! ## Base fees -/

theorem nextBaseBound_eq {base : Nat} (small : base ≤ word128Max / 1125) : nextBaseBound base = base + base / 8 := by
  have fits : base * 1125 ≤ word128Max := (Nat.le_div_iff_mul_le (by decide)).1 small
  rw [nextBaseBound, Nat.min_eq_left fits]
  omega

theorem small_of_word64 {base : Nat} (word : base ≤ word64Max) : base ≤ word128Max / 1125 := word.trans (by decide)

/-- The node says what the base fee of the next block is, unless it says zero. -/
theorem nextBase_eq {latest told : Nat} (small : latest ≤ word128Max / 1125) :
    nextBase latest told = if told = 0 then latest + latest / 8 else told := by
  rw [nextBase, nextBaseBound_eq small]

/-! ## Tips -/

theorem meanTip_eq (samples : List Nat) :
    meanTip samples = if samples = [] then 2 * Wei.perGwei else samples.sum / samples.length := by
  cases samples with
  | nil => rfl
  | cons tip tips => rw [meanTip, ← List.sum_eq_foldl]; rfl

/-- A mean lies between the least and the greatest of its samples. -/
theorem between_of_mean {samples : List Nat} {least greatest : Nat} (lower : samples.min? = some least)
    (upper : samples.max? = some greatest) :
    least ≤ samples.sum / samples.length ∧ samples.sum / samples.length ≤ greatest := by
  have filled : 0 < samples.length := List.length_pos_of_mem (List.min?_eq_some_iff.1 lower).1
  have above := List.card_nsmul_le_sum samples least (List.min?_eq_some_iff.1 lower).2
  have below := List.sum_le_card_nsmul samples greatest (List.max?_eq_some_iff.1 upper).2
  rw [smul_eq_mul] at above below
  constructor
  · rwa [Nat.le_div_iff_mul_le filled, Nat.mul_comm]
  · exact Nat.div_le_of_le_mul below

theorem meanTip_le {samples : List Nat} (fits : samples.sum ≤ word128Max) : meanTip samples ≤ word128Max := by
  rw [meanTip_eq]
  split
  · decide
  · exact (Nat.div_le_self _ _).trans fits

/-! ## Suggestions -/

theorem tip_le_feeCap {base tip : Nat} (word : tip ≤ word128Max) :
    (suggestion base tip).tip ≤ (suggestion base tip).feeCap := Nat.le_min.2 ⟨Nat.le_add_left .., word⟩

theorem Quote.clamped_spec {q : Quote} (fits : q.tipCap ≤ q.feeCap) :
    Wei.perGwei ≤ q.clamped.tipCap ∧ q.clamped.tipCap ≤ q.clamped.feeCap :=
  ⟨Nat.le_max_right .., Nat.max_le.2 ⟨fits.trans (Nat.le_max_left ..), Nat.le_max_right ..⟩⟩

theorem Overrides.quote?_eq_none_iff {o : Overrides} : o.quote? = none ↔ o.baseGwei = 0 ∨ o.tipGwei = 0 := by
  unfold quote?
  split <;> simp <;> omega

/-- What a history says fits its words: every base fee and the sum of the samples take at most 128 bits, and so does the
latest base fee when it is raised. -/
structure History.Fits (h : History) : Prop where
  bases : ∀ base ∈ h.baseFees, base ≤ word128Max
  latest : ∀ older latest told, h.baseFees = older ++ [latest, told] → latest ≤ word128Max / 1125
  samples : (samples h.rewards).sum ≤ word128Max

theorem suggest_of_bases {h : History} {older : List Nat} {latest told : Nat}
    (bases : h.baseFees = older ++ [latest, told]) :
    suggest h = .ok (suggestion (nextBase latest told) (meanTip (samples h.rewards))) := by
  rw [suggest, bases, List.reverse_append]
  rfl

theorem suggest_of_short {h : History} (short : h.baseFees.length < 2) : suggest h = .error noHistory := by
  rw [suggest]
  rw [← List.length_reverse] at short
  match same : h.baseFees.reverse, short with
  | [], _ => rfl
  | [_], _ => rfl

theorem exists_last_two {bases : List Nat} (long : 2 ≤ bases.length) :
    ∃ older latest told, bases = older ++ [latest, told] := by
  obtain ⟨front, told, rfl⟩ := (List.eq_nil_or_concat' bases).resolve_left (by rintro rfl; simp at long)
  obtain ⟨older, latest, rfl⟩ := (List.eq_nil_or_concat' front).resolve_left (by rintro rfl; simp at long)
  exact ⟨older, latest, told, by simp⟩

/-- The tip of a suggestion from a history fits its fee cap. -/
theorem tip_le_feeCap_of_suggest {h : History} (fits : h.Fits) {s : Suggestion} (suggests : suggest h = .ok s) :
    s.tip ≤ s.feeCap := by
  rcases Nat.lt_or_ge h.baseFees.length 2 with short | long
  · rw [suggest_of_short short] at suggests
    cases suggests
  · obtain ⟨older, latest, told, bases⟩ := exists_last_two long
    rw [suggest_of_bases bases] at suggests
    cases suggests
    exact tip_le_feeCap (meanTip_le fits.samples)

end Fee

namespace Network.Node.FeeReplies

open Fee (suggest noHistory samples)

/-- What a node says about fees fits its words: a base fee has 64 bits where it stands in a block, and a tip 128. -/
structure Fits (t : FeeReplies) : Prop where
  history : ∀ h, t.history = .ok h → h.Fits
  latest : ∀ base, t.latest = .ok (some base) → base ≤ word64Max
  tip : ∀ tip, t.tip = .ok tip → tip ≤ word128Max

variable {t : FeeReplies}

theorem suggestion_of_history {h : Fee.History} {s : Fee.Suggestion} (history : t.history = .ok h)
    (suggests : suggest h = .ok s) : t.suggestion = .ok s := by
  rw [suggestion, history]
  dsimp only
  rw [suggests]

theorem suggestion_of_no_history {h : Fee.History} {e : Failure} (history : t.history = .ok h)
    (fails : suggest h = .error e) : t.suggestion = t.fallback := by
  rw [suggestion, history]
  dsimp only
  rw [fails]

theorem suggestion_of_error {fault : RequestFault} (history : t.history = .error fault) :
    t.suggestion = t.fallback := by
  rw [suggestion, history]

theorem fallback_of_answers {base : Option Nat} {tip : Nat} (latest : t.latest = .ok base) (usual : t.tip = .ok tip) :
    t.fallback = .ok (Fee.suggestFrom base tip) := by
  rw [fallback, latest, usual]
  rfl

/-- The tip of a suggestion from the latest block fits its fee cap. -/
theorem tip_le_feeCap_of_fallback (fits : t.Fits) {s : Fee.Suggestion} (falls : t.fallback = .ok s) :
    s.tip ≤ s.feeCap := by
  rw [fallback] at falls
  cases latest : t.latest with
  | error fault => rw [latest] at falls; cases falls
  | ok base =>
    cases usual : t.tip with
    | error fault => rw [latest, usual] at falls; cases falls
    | ok tip =>
      rw [latest, usual] at falls
      cases falls
      exact Fee.tip_le_feeCap (fits.tip tip usual)

/-- **The tip of every suggestion fits its fee cap.** -/
theorem tip_le_feeCap (fits : t.Fits) {s : Fee.Suggestion} (suggests : t.suggestion = .ok s) : s.tip ≤ s.feeCap := by
  rw [suggestion] at suggests
  split at suggests
  · exact tip_le_feeCap_of_fallback fits suggests
  · next h history =>
    split at suggests
    · next s' ok =>
      cases suggests
      exact Fee.tip_le_feeCap_of_suggest (fits.history h history) ok
    · exact tip_le_feeCap_of_fallback fits suggests

end Network.Node.FeeReplies

namespace Fee

open Network.Node (FeeReplies)

/-- **What a node suggests can be used**, if what it says fits its words.

From a history with at least two base fees the tip is the mean of the first sample of each block that has one, rounded
down, or two gwei if none has; the base fee of the next block is the last one told, or an eighth more than the one
before it if that is zero; and the fee cap is their sum, or the greatest word of 128 bits. A history with fewer base fees
is a failure. Then, and without a history, the base fee is an eighth more than that of the latest block.

A quote without both parts set by hand has a tip of at least one gwei that does not exceed its fee cap: nodes will refuse
a quote only if it was set by hand. To be raised to the floor does no harm to any quote. -/
theorem fees_usable {t : FeeReplies} (fits : t.Fits) (o : Overrides) :
    (∀ h older latest told, t.history = .ok h → h.baseFees = older ++ [latest, told] →
      let tips := samples h.rewards
      let tip := if tips = [] then 2 * Wei.perGwei else tips.sum / tips.length
      let base := if told = 0 then latest + latest / 8 else told
      t.suggestion = .ok ⟨min (base + tip) word128Max, tip, base⟩ ∧
        ∀ least greatest, tips.min? = some least → tips.max? = some greatest → least ≤ tip ∧ tip ≤ greatest) ∧
      (∀ h, t.history = .ok h → h.baseFees.length < 2 →
        suggest h = .error (.initialization "No base fee history") ∧ t.suggestion = t.fallback) ∧
      (∀ fault, t.history = .error fault → t.suggestion = t.fallback) ∧
      (∀ latest tip, t.latest = .ok latest → t.tip = .ok tip →
        let base := latest.getD defaultBase
        t.fallback = .ok ⟨min (base + base / 8 + tip) word128Max, tip, base + base / 8⟩) ∧
      (o.baseGwei = 0 ∨ o.tipGwei = 0 →
        (∀ s, t.suggestion = .ok s → o.quote t.fees = .ok (Quote.mk s.feeCap s.tip).clamped) ∧
          ∀ q, o.quote t.fees = .ok q → Wei.perGwei ≤ q.tipCap ∧ q.tipCap ≤ q.feeCap) ∧
      (∀ q, o.quote t.fees = .ok q → q.tipExceedsCap → 0 < o.baseGwei ∧ 0 < o.tipGwei) ∧
      ∀ q : Quote, q.tipExceedsCap = false → q.clamped.tipExceedsCap = false := by
  have unset {q : Quote} (asks : o.quote? = none) (quotes : o.quote t.fees = .ok q) :
      Wei.perGwei ≤ q.tipCap ∧ q.tipCap ≤ q.feeCap := by
    rw [Overrides.quote, asks, FeeReplies.fees] at quotes
    cases suggests : t.suggestion with
    | error e => rw [suggests] at quotes; cases quotes
    | ok s =>
      rw [suggests] at quotes
      cases quotes
      exact Quote.clamped_spec (FeeReplies.tip_le_feeCap fits suggests)
  refine ⟨fun h older latest told history bases => ?history, fun h history short => ?short,
    fun fault => FeeReplies.suggestion_of_error, fun latest tip answers usual => ?fallback,
    fun partly => ⟨fun s suggests => ?quote, fun q => unset (Overrides.quote?_eq_none_iff.2 partly)⟩,
    fun q quotes exceeds => ?refused, fun q => Quote.tipExceedsCap_clamped⟩
  case history =>
    have small := (fits.history h history).latest older latest told bases
    constructor
    · rw [FeeReplies.suggestion_of_history history (suggest_of_bases bases), meanTip_eq, nextBase_eq small]
      rfl
    · intro least greatest lower upper
      have filled : samples h.rewards ≠ [] := by
        intro empty
        rw [empty] at lower
        cases lower
      rw [if_neg filled]
      exact between_of_mean lower upper
  case short =>
    have fails := suggest_of_short short
    exact ⟨fails, FeeReplies.suggestion_of_no_history history fails⟩
  case fallback =>
    have small : latest.getD defaultBase ≤ word128Max / 1125 := by
      cases latest with
      | none => decide
      | some base => exact small_of_word64 (fits.latest base answers)
    rw [FeeReplies.fallback_of_answers answers usual, suggestFrom, nextBaseBound_eq small]
    rfl
  case quote =>
    rw [Overrides.quote, Overrides.quote?_eq_none_iff.2 partly, FeeReplies.fees, suggests]
    rfl
  case refused =>
    by_contra partly
    have asks : o.quote? = none := Overrides.quote?_eq_none_iff.2 (by omega)
    have fitting := (unset asks quotes).2
    exact absurd (of_decide_eq_true exceeds) (Nat.not_lt.2 fitting)

/-- A history in which the node does not say the base fee of the next block, and a block without samples. -/
theorem fees_usable_unsaid_base :
    let h : History := ⟨[7, 8 * Wei.perGwei + 7, 0], [[3 * Wei.perGwei], [], [5, 6]]⟩
    let t : FeeReplies := ⟨.ok h, .ok none, .ok 0⟩
    t.Fits ∧ t.suggestion = .ok ⟨10500000009, 1500000002, 9000000007⟩ := by
  intro h t
  have fits : t.Fits := by
    refine ⟨?_, ?_, ?_⟩
    · rintro _ ⟨⟩
      refine ⟨by decide, fun older latest told bases => ?_, by decide⟩
      obtain ⟨-, last⟩ := List.append_inj' (show [7] ++ [8 * Wei.perGwei + 7, 0] = older ++ [latest, told] from bases) rfl
      cases last
      decide
    · nofun
    · rintro _ ⟨⟩
      decide
  have suggests := ((fees_usable fits ⟨0, 0⟩).1 h [7] (8 * Wei.perGwei + 7) 0 rfl rfl).1
  exact ⟨fits, suggests.trans (congrArg Except.ok (by decide))⟩

end Fee

end TxLoad
