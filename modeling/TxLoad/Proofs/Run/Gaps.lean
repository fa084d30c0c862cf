import TxLoad.Proofs.Run.NonceOrder

/-!
# Holes among the accepted nonces

- where two lists share out a range (`Shares`), the first is an initial segment of it exactly if it lies below the
  second (`Shares.initial_segment_iff`);
- **the accepted nonces have no hole exactly if all of them are below all lost ones** (`accepted_gapless_iff`).
-/

namespace TxLoad.Dispatch

/-! ## Initial segments -/

/-- Two lists share out a range: every number of it is in exactly one of them, and no other number is in either. -/
structure Shares (kept gone : List Nat) (first next : Nat) : Prop where
  inside : ∀ n, n ∈ kept ∨ n ∈ gone → first ≤ n ∧ n < next
  apart : ∀ n, n ∈ kept → n ∉ gone
  either : ∀ n, first ≤ n → n < next → n ∈ kept ∨ n ∈ gone

namespace Shares

variable {kept gone : List Nat} {first next : Nat}

theorem of_count (once : ∀ n, kept.count n + gone.count n = if first ≤ n ∧ n < next then 1 else 0) :
    Shares kept gone first next where
  inside n mem := by
    have pos : 0 < kept.count n + gone.count n := by
      rcases mem with mem | mem <;> have := List.count_pos_iff.2 mem <;> omega
    rw [once] at pos
    split at pos
    · next both => exact both
    · omega
  apart n here gone' := by
    have := List.count_pos_iff.2 here
    have := List.count_pos_iff.2 gone'
    have := once n
    split at this <;> omega
  either n low high := by
    have total := once n
    rw [if_pos ⟨low, high⟩] at total
    rcases Nat.eq_zero_or_pos (kept.count n) with zero | pos
    · exact .inr (List.count_pos_iff.1 (by omega))
    · exact .inl (List.count_pos_iff.1 pos)

/-- The longest initial segment that is kept ends where the range does, or at a number that is gone. -/
theorem exists_longest (h : Shares kept gone first next) {u : Nat} (fits : first + u ≤ next) :
    ∃ k ≤ u, (∀ n, first ≤ n → n < first + k → n ∈ kept) ∧ (k = u ∨ first + k ∈ gone) := by
  induction u with
  | zero => exact ⟨0, Nat.le_refl _, fun n low high => by omega, .inl rfl⟩
  | succ u ih =>
    obtain ⟨k, short, all, stop | stop⟩ := ih (by omega)
    · rcases h.either (first + k) (by omega) (by omega) with kept' | gone'
      · refine ⟨k + 1, by omega, fun n low high => ?_, .inl (by omega)⟩
        rcases Nat.lt_or_eq_of_le (Nat.lt_succ_iff.1 high) with less | same
        · exact all n low less
        · exact same ▸ kept'
      · exact ⟨k, by omega, all, .inr gone'⟩
    · exact ⟨k, by omega, all, .inr stop⟩

/-- **What is kept of a range is an initial segment of it exactly if all of it is below all that is gone.** -/
theorem initial_segment_iff (h : Shares kept gone first next) (le : first ≤ next) :
    (∃ k, ∀ n, n ∈ kept ↔ first ≤ n ∧ n < first + k) ↔ ∀ a ∈ kept, ∀ n ∈ gone, a < n := by
  constructor
  · rintro ⟨k, segment⟩ a mem n gone'
    have below := ((segment a).1 mem).2
    have outside : ¬ (first ≤ n ∧ n < first + k) := fun both => h.apart n ((segment n).2 both) gone'
    have low := (h.inside n (.inr gone')).1
    omega
  · intro below
    obtain ⟨k, short, all, stop⟩ := h.exists_longest (Nat.le_of_eq (Nat.add_sub_of_le le))
    refine ⟨k, fun n => ⟨fun mem => ?_, fun both => all n both.1 both.2⟩⟩
    have range := h.inside n (.inl mem)
    rcases stop with full | gone'
    · omega
    · exact ⟨range.1, below n mem _ gone'⟩

end Shares

/-! ## The result -/

/-- **The accepted nonces of a worker have no hole exactly if all of them are below all that failures used up.** In a
run that returns a summary every nonce that the worker handed out was accepted or lost, and only once; a lost one is
never handed out again, so whatever is accepted above it waits for it in vain. The next nonce has gone up by no more than
the number of admissions, so it stays a word if there is room for as many dispatches. -/
theorem accepted_gapless_iff (s : Setup) (pool : Pool) (registry : Registry) (now : Nat) (events : List Event)
    {w : Nat} {account : Account} (worker : registry.workers[w]? = some account) {summary : Summary}
    (ok : ((Run.start s pool registry now).after s events).result? = some (.ok summary)) :
    let r := (Run.start s pool registry now).after s events
    let ds := (Run.start s pool registry now).trace s events
    (∀ n, (accepted w ds).count n + (lost w ds).count n =
        if account.nextNonce ≤ n ∧ n < nonce r.registry.workers w then 1 else 0) ∧
      ((∃ k, ∀ n, n ∈ accepted w ds ↔ account.nextNonce ≤ n ∧ n < account.nextNonce + k) ↔
        ∀ a ∈ accepted w ds, ∀ n ∈ lost w ds, a < n) ∧
      nonce r.registry.workers w ≤ account.nextNonce + r.context.counters.nextIndex := by
  intro r ds
  have first : nonce registry.workers w = account.nextNonce := by rw [nonce, worker]; rfl
  have nonces : Nonces w (nonce registry.workers w) r ds := Nonces.after s pool registry now events w
  rw [first] at nonces
  have idle := ((Ending.after s pool registry now events).ended ok).idle
  have once : ∀ n, (accepted w ds).count n + (lost w ds).count n =
      if account.nextNonce ≤ n ∧ n < nonce r.registry.workers w then 1 else 0 := by
    intro n
    rw [← nonces.once n, uses, countP_sends_of_idle idle]
    rfl
  have drawn : Drawn (nonce registry.workers) r ds := Drawn.after s pool registry now events
  have room : nonce r.registry.workers w ≤ account.nextNonce + r.context.counters.nextIndex := by
    rw [← first, ← (Ledger.after s pool registry now events).size]
    exact Nat.le_of_add_right_le (drawn.room w)
  exact ⟨once, (Shares.of_count once).initial_segment_iff nonces.le, room⟩

/-- One dispatch of one worker, with the fees set by hand. -/
def Setup.single : Setup :=
  ⟨{ Options.standard with count := 1 }, .transfer none 0 false, ⟨1, 1⟩, .direct, ["a"], fun _ => ⟨0, 0, 0⟩⟩

/-- The course of such a run when the endpoint accepts the transaction. -/
def Event.single : List Event :=
  [.resume, .begin 0, .sent 0 (.ok ()), .watch 0, .answered 0 (.error .noAccounts), .resume, .resume]

theorem Run.after_single (s : Setup) (r : Run) : r.after s Event.single =
    ((((((r.resume s).begin s 0).sent s 0 (.ok ())).watch s 0).answered s 0 (.error .noAccounts)).resume s).resume s := by
  simp only [after, Event.single, List.foldl_cons, List.foldl_nil, step]

/-- It returns a summary, whatever the signature comes to. -/
theorem Run.result?_single (account : Account) : ∃ summary,
    ((start .single ⟨1, [0], 0⟩ ⟨account, #[account], 0⟩ 0).after .single Event.single).result? =
      some (.ok summary) := by
  generalize first : start .single ⟨1, [0], 0⟩ ⟨account, #[account], 0⟩ 0 = r₀
  have here : (r₀.resume .single).jobs = #[.admitted] := by rw [← first]; rfl
  have main : (r₀.resume .single).main = .joining := by rw [← first]; rfl
  have calm : (r₀.resume .single).context.fatal.first = none := by rw [← first]; rfl
  have streak : (r₀.resume .single).context.stats.streak = 0 := by rw [← first]; rfl
  have moment : (r₀.resume .single).now = 0 := by rw [← first]; rfl
  have selected : (r₀.resume .single).pool.select .byIndex 0 0 = (.ok 0, ⟨1, [0], 0⟩) := by rw [← first]; rfl
  have picked : (r₀.resume .single).registry.pick .byIndex 0 0 = (0, ⟨account, #[account], 0⟩) := by rw [← first]; rfl
  rw [after_single]
  generalize r₀.resume .single = r at *
  obtain ⟨quote, fees⟩ : ∃ quote, Setup.single.overrides.quote? = some quote := ⟨_, rfl⟩
  have load : Setup.single.scenario.payload 0 account.address 0 = .ok (.transfer account.address 0) := rfl
  rw [begin_of_fees (by simp [here]) selected picked fees, price]
  cases outcome : account.assemble (.transfer account.address 0) quote.clamped with
  | mk a signed =>
    cases signed with
    | error e =>
      rw [assemble_of_error rfl load outcome, abandon_eq]
      generalize (abandon _ _ _ _ _).log = log
      simp only [sent, watch, answered, sayAll, here, List.setIfInBounds_toArray, List.set_cons_zero,
        List.getElem?_toArray, List.getElem?_cons_zero]
      refine ⟨_, result?_of_idle main ?_ (by simp [anyDispatching, Stage.isDispatching])
        (by simp [anyTracking, Stage.isTracking])⟩
      simp [Context.fatal_abandon, stalled?, streak, calm, Setup.single, Options.standard]
    | ok t =>
      have patience : Setup.single.options.patience = some 120000 := rfl
      have timely (r : Run) (p : Pending) (now : p.submitted = r.now) : r.isTimely .single p = true := by
        simp [isTimely, Pending.deadline, Wait.till, now, patience]
      have told : (⟨0, 0, 0, t, r.now⟩ : Pending).isTellable Setup.single.options.patience = true := by
        simp [Pending.isTellable, patience, moment, Wait.horizon]
      rw [assemble_of_ok rfl load outcome]
      simp only [sent, watch, answered, sayAll, here, reach, say, List.setIfInBounds_toArray, List.set_cons_zero,
        List.getElem?_toArray, List.getElem?_cons_zero]
      rw [if_pos told]
      simp only [List.getElem?_toArray, List.getElem?_cons_zero]
      rw [if_pos (timely _ _ rfl)]
      simp only [close, reach, say, List.setIfInBounds_toArray, List.set_cons_zero]
      exact ⟨_, result?_of_idle main calm (by simp [anyDispatching, Stage.isDispatching])
        (by simp [anyTracking, Stage.isTracking])⟩

/-- The nonces of the one worker of such a run. -/
theorem accepted_gapless_single :
    let account := Account.ofKey ⟨1, by decide, by decide⟩ 1
    let registry : Registry := ⟨account, #[account], 0⟩
    let start := Run.start .single ⟨1, [0], 0⟩ registry 0
    let ds := start.trace .single Event.single
    registry.workers[0]? = some account ∧
      (∃ summary, (start.after .single Event.single).result? = some (.ok summary)) ∧
      ((∃ k, ∀ n, n ∈ accepted 0 ds ↔ account.nextNonce ≤ n ∧ n < account.nextNonce + k) ↔
        ∀ a ∈ accepted 0 ds, ∀ n ∈ lost 0 ds, a < n) := by
  intro account registry start ds
  have worker : registry.workers[0]? = some account := rfl
  obtain ⟨summary, ok⟩ := Run.result?_single account
  exact ⟨worker, ⟨summary, ok⟩, (accepted_gapless_iff .single ⟨1, [0], 0⟩ registry 0 Event.single worker ok).2.1⟩

end TxLoad.Dispatch
