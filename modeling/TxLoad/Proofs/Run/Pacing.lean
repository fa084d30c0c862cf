import TxLoad.Proofs.Run.Quota

/-!
# The pace of a run

A run with a throughput admits as many dispatches per slot as the throughput says, the slot that has begun included.
The loop looks at that before it asks for its next slot of the gate, and not again when the slot comes.

- `Options.budget` is what the throughput allows after some time;
- `Paced` says that a run stays within its budget, and below it from a look that let the loop go on until the
  admission that follows; every move keeps it (`Paced.move`);
- **the budget is never exceeded**, however long the loop waited between its look and the admission
  (`pace_respected`).
-/

namespace TxLoad.Dispatch

/-! ## The budget -/

/-- What the throughput allows in the slots that have begun after `elapsed` milliseconds. -/
def Options.budget (o : Options) (elapsed : Nat) : Nat := o.throughput * (elapsed / o.slot + 1)

theorem Options.budget_mono (o : Options) {elapsed elapsed' : Nat} (later : elapsed ≤ elapsed') :
    o.budget elapsed ≤ o.budget elapsed' :=
  Nat.mul_le_mul_left _ (Nat.succ_le_succ (Nat.div_le_div_right later))

theorem slotsBegun_pos (elapsed slot : Nat) : 0 < slotsBegun elapsed slot :=
  Nat.lt_min.2 ⟨Nat.succ_pos _, by decide⟩

theorem slotsBegun_le (elapsed : Nat) {slot : Nat} (lasts : 0 < slot) :
    slotsBegun elapsed slot ≤ elapsed / slot + 1 := by
  have width : max slot 1 = slot := Nat.max_eq_left lasts
  unfold slotsBegun
  rw [width]
  omega

/-- A run that is not ahead is below its budget. -/
theorem lt_budget_of_not_ahead {o : Options} (limited : 0 < o.throughput) (lasts : 0 < o.slot) {accounted elapsed : Nat}
    (h : ahead accounted elapsed o.slot o.throughput = false) : accounted < o.budget elapsed := by
  have short : accounted / slotsBegun elapsed o.slot < o.throughput := by
    simpa [ahead, limited] using h
  calc accounted
      < o.throughput * slotsBegun elapsed o.slot := (Nat.div_lt_iff_lt_mul (slotsBegun_pos _ _)).1 short
    _ ≤ o.budget elapsed := Nat.mul_le_mul_left _ (slotsBegun_le elapsed lasts)

/-! ## Within the budget -/

/-- The loop has looked at the throughput and goes on to its next admission. -/
def Main.isEntering : Main → Bool
  | acquiring | waiting => true
  | _ => false

/-- **A run that began at `first` is within its budget**, and below it when it goes on to an admission. -/
structure Paced (o : Options) (first : Nat) (r : Run) : Prop where
  started : r.context.started = first
  within : r.context.counters.accounted ≤ o.budget (r.context.elapsed r.now)
  below : r.main.isEntering → r.context.counters.accounted < o.budget (r.context.elapsed r.now)

namespace Paced

variable {s : Setup} {o : Options} {first : Nat} {r r' : Run}

theorem start (s : Setup) (pool : Pool) (registry : Registry) (now : Nat) (limited : 0 < s.options.throughput) :
    Paced s.options now (Run.start s pool registry now) where
  started := rfl
  within := Nat.zero_le _
  below _ := Nat.mul_pos limited (Nat.succ_pos _)

/-- A loop that goes on after a look is below its budget. -/
theorem below_of_paced (limited : 0 < s.options.throughput) (lasts : 0 < s.options.slot)
    (entering : (r.paced s).isEntering) :
    r.context.counters.accounted < s.options.budget (r.context.elapsed r.now) := by
  unfold Run.paced at entering
  split at entering
  · cases entering
  · next going => exact lt_budget_of_not_ahead limited lasts (Bool.not_eq_true _ ▸ going)

/-- A move that accounts for no more dispatches keeps the pace, if the loop has looked when it goes on to an
admission. -/
theorem frame (h : Paced o first r) (started : r'.context.started = r.context.started) (later : r.now ≤ r'.now)
    (accounted : r'.context.counters.accounted ≤ r.context.counters.accounted)
    (looked : r'.main.isEntering →
      r.main.isEntering ∨ r'.context.counters.accounted < o.budget (r'.context.elapsed r'.now)) :
    Paced o first r' := by
  have grows : o.budget (r.context.elapsed r.now) ≤ o.budget (r'.context.elapsed r'.now) := by
    refine o.budget_mono ?_
    unfold Context.elapsed
    rw [started]
    exact Nat.sub_le_sub_right later _
  have within := h.within
  refine ⟨started.trans h.started, by omega, fun entering => ?_⟩
  rcases looked entering with before | now
  · have := h.below before
    omega
  · exact now

/-- An admission keeps the pace: it takes what was left when the loop looked, and there is no less by now. -/
theorem enter (h : Paced s.options first r) (limited : 0 < s.options.throughput) (lasts : 0 < s.options.slot)
    {gate : Gate} (enters : r.Enters gate) : Paced s.options first (r.beginDispatch s gate) := by
  have entering : r.main.isEntering := by
    rcases enters with ⟨main, -⟩ | ⟨main, -⟩ <;> rw [main] <;> rfl
  refine ⟨h.started, ?_, fun again => ?_⟩
  · have accounted : (r.beginDispatch s gate).context.counters.accounted = r.context.counters.accounted + 1 := by
      simp only [Run.beginDispatch, Context.begin, Counters.begin, Counters.accounted]
      omega
    rw [accounted]
    exact h.below entering
  · rw [Run.main_beginDispatch] at again
    split at again
    · cases again
    · exact below_of_paced limited lasts again

/-- **Every move keeps the pace.** -/
theorem move {ds : List Action} {d : Option Action} (h : Paced s.options first r) (ledger : Ledger r ds)
    (limited : 0 < s.options.throughput) (lasts : 0 < s.options.slot) (m : Move s r d r') :
    Paced s.options first r' := by
  cases m with
  | rest later => exact h.frame rfl later (Nat.le_refl _) .inl
  | enter calm enters => exact h.enter limited lasts enters
  | queue calm main => exact h.frame rfl (Nat.le_refl _) (Nat.le_refl _) fun _ => .inl (by rw [main]; rfl)
  | pace =>
    refine h.frame rfl (Nat.le_refl _) (Nat.le_refl _) fun entering => .inr ?_
    exact below_of_paced limited lasts entering
  | join | conclude | abort => exact h.frame rfl (Nat.le_refl _) (Nat.le_refl _) nofun
  | quote | assemble | watch | breakOff => exact h.frame rfl (Nat.le_refl _) (Nat.le_refl _) .inl
  | fail =>
    refine h.frame (by simp) (Nat.le_refl _) ?_ .inl
    simp only [Context.counters_abandon, Counters.finish, Counters.accounted, Bool.toNat_false]
    omega
  | @submit i _ _ _ _ here =>
    have standing : r.standing? i = some .dispatching := by rw [Run.standing?, here]; rfl
    have live := ledger.inFlight_pos standing
    refine h.frame rfl (Nat.le_refl _) ?_ .inl
    simp only [Context.submit, Context.finish, Counters.finish, Counters.accounted, Bool.toNat_true]
    omega
  | close => exact h.frame (by simp) (Nat.le_refl _) (by simp) .inl

theorem after (s : Setup) (pool : Pool) (registry : Registry) (now : Nat) (events : List Event)
    (limited : 0 < s.options.throughput) (lasts : 0 < s.options.slot) :
    Paced s.options now ((Run.start s pool registry now).after s events) := by
  have both := Run.after_induction (P := fun r ds => Ledger r ds ∧ Paced s.options now r)
    ⟨Ledger.start s pool registry now, start s pool registry now limited⟩
    (fun ⟨ledger, paced⟩ m => ⟨ledger.move m, paced.move ledger limited lasts m⟩) events
  exact both.2

end Paced

/-! ## The budget is respected -/

theorem Move.submitted {s : Setup} {r r' : Run} {d : Option Action} (m : Move s r d r') :
    r'.context.counters.submitted = r.context.counters.submitted + d.toList.countP Action.isSubmission := by
  cases m with
  | fail | close => simp [Counters.finish, Action.isSubmission]
  | _ => rfl

theorem Run.submitted_after (s : Setup) (pool : Pool) (registry : Registry) (now : Nat) (events : List Event) :
    ((start s pool registry now).after s events).context.counters.submitted =
      ((start s pool registry now).trace s events).countP Action.isSubmission :=
  after_induction (P := fun r ds => r.context.counters.submitted = ds.countP Action.isSubmission) rfl
    (fun h m => by rw [m.submitted, h, List.countP_append]) events

/-- **The budget is never exceeded**, after any events in any order: `r.now - now` milliseconds after a run has begun,
neither what is submitted or in flight nor what was ever submitted is more than the throughput times the slots that
have begun. -/
theorem pace_respected (s : Setup) (pool : Pool) (registry : Registry) (now : Nat) (events : List Event)
    (limited : 0 < s.options.throughput) (lasts : 0 < s.options.slot) :
    let start := Run.start s pool registry now
    let r := start.after s events
    let budget := s.options.throughput * ((r.now - now) / s.options.slot + 1)
    r.context.elapsed r.now = r.now - now ∧
      r.context.counters.submitted + r.context.counters.inFlight ≤ budget ∧
      (start.trace s events).countP Action.isSubmission ≤ budget := by
  intro start r budget
  have paced : Paced s.options now r := Paced.after s pool registry now events limited lasts
  have elapsed : r.context.elapsed r.now = r.now - now := by rw [Context.elapsed, paced.started]
  have within : r.context.counters.submitted + r.context.counters.inFlight ≤ budget := by
    have within := paced.within
    rw [elapsed] at within
    exact within
  refine ⟨elapsed, within, ?_⟩
  rw [← Run.submitted_after s pool registry now events]
  exact Nat.le_trans (Nat.le_add_right _ _) within

/-- Two dispatches per second, for which no endpoint is good: both of the first second are in flight, and the
loop looks again after a tenth of a second. By then both have failed, and a third one is admitted. -/
theorem pace_respected_two :
    let s : Setup := ⟨{ Options.standard with throughput := 2, slot := 1000 }, .transfer none 0 false, ⟨0, 0⟩, .direct,
      [], fun _ => ⟨0, 0, 0⟩⟩
    let registry : Registry := ⟨.ofKey ⟨1, by decide, by decide⟩ 1, #[.ofKey ⟨2, by decide, by decide⟩ 1], 0⟩
    let start := Run.start s ⟨1, [], 0⟩ registry 7
    let early := start.after s [.resume, .resume]
    let late := start.after s [.resume, .resume, .begin 0, .begin 1, .pass 107, .resume, .resume]
    0 < s.options.throughput ∧ 0 < s.options.slot ∧
      early.context.counters.inFlight = 2 ∧ late.context.counters.nextIndex = 3 ∧ late.now = 107 ∧
      late.context.counters.submitted + late.context.counters.inFlight ≤ 2 * ((107 - 7) / 1000 + 1) := by
  intro s registry start early late
  have limited : 0 < s.options.throughput := by decide
  have lasts : 0 < s.options.slot := by decide
  have moment : late.now = 107 := by decide +kernel
  obtain ⟨-, within, -⟩ := pace_respected s ⟨1, [], 0⟩ registry 7
    [.resume, .resume, .begin 0, .begin 1, .pass 107, .resume, .resume] limited lasts
  refine ⟨limited, lasts, by decide +kernel, by decide +kernel, moment, ?_⟩
  rw [← moment]
  exact within

end TxLoad.Dispatch
