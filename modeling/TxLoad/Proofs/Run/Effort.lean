import TxLoad.Proofs.Run.Raising

/-!
# The effort of a counted run

A failed dispatch is replaced, so the count alone does not bound the admissions: what the loop has accounted for goes
down as well as up. But a run stalls when enough dispatches fail in a row, and nothing is admitted after that.

- `Sparing`: as long as nothing fatal was raised, the failures between two submissions are less than the limit;
- `Bounded` bounds the admissions by the count times the limit, and is kept by every move (`Bounded.move`);
- `Run.remaining` bounds how often the loop still goes on with its admissions: no move raises it
  (`Run.remaining_move`), and the loop lowers it whenever it goes on (`Run.remaining_resume`);
- **a counted run admits only so often**, and its admissions end with the count or with a fatal failure
  (`admissions_end`).
-/

namespace TxLoad.Dispatch

/-! ## Failures before a run stalls -/

/-- **Few failures**: as long as nothing fatal was raised, fewer than `limit` dispatches failed since the last
submission, and fewer than `limit` between two submissions. -/
structure Sparing (limit : Nat) (r : Run) : Prop where
  streak : r.context.fatal.count = 0 → r.context.stats.streak < limit
  failed : r.context.fatal.count = 0 →
    r.context.stats.failed ≤ r.context.counters.submitted * (limit - 1) + r.context.stats.streak

namespace Sparing

variable {s : Setup} {limit : Nat} {r r' : Run} {ds : List Action} {d : Option Action}

theorem start (s : Setup) (pool : Pool) (registry : Registry) (now : Nat) (strict : 0 < limit) :
    Sparing limit (Run.start s pool registry now) where
  streak _ := strict
  failed _ := Nat.zero_le _

/-- A move that neither fails nor submits a dispatch changes nothing of this. -/
theorem frame (h : Sparing limit r) (fatal : r'.context.fatal.count = 0 → r.context.fatal.count = 0)
    (streak : r'.context.stats.streak = r.context.stats.streak)
    (failed : r'.context.stats.failed = r.context.stats.failed)
    (submitted : r'.context.counters.submitted = r.context.counters.submitted) : Sparing limit r' where
  streak calm := by rw [streak]; exact h.streak (fatal calm)
  failed calm := by rw [failed, submitted, streak]; exact h.failed (fatal calm)

/-- **Every move is sparing.** -/
theorem move (h : Sparing s.options.maxFailures r) (strict : 0 < s.options.maxFailures) (m : Move s r d r') :
    Sparing s.options.maxFailures r' := by
  cases m with
  | rest | enter | queue | pace | join | conclude | quote | assemble | watch | breakOff => exact h.frame id rfl rfl rfl
  | abort => exact h.frame id rfl rfl rfl
  | @fail i _ st _ _ e _ _ here spends =>
    -- the failure that would complete the row raises a fatal one
    have before : (r.context.abandon s.options e).fatal.count = 0 →
        r.context.fatal.count = 0 ∧ r.context.stats.streak + 1 < s.options.maxFailures := by
      intro calm
      rw [Context.fatal_abandon] at calm
      cases stalled : Run.stalled? s.options (r.context.stats.streak + 1) e with
      | some fatal => simp [stalled] at calm
      | none =>
        rw [stalled] at calm
        refine ⟨calm, ?_⟩
        unfold Run.stalled? at stalled
        split at stalled
        · cases stalled
        · omega
    refine ⟨fun calm => ?_, fun calm => ?_⟩
    · simpa [Stats.fail] using (before calm).2
    · have := h.failed (before calm).1
      simp only [Context.stats_abandon, Context.counters_abandon, Stats.fail, Counters.finish, Bool.toNat_false,
        Nat.add_zero]
      omega
  | submit =>
    refine ⟨fun _ => strict, fun calm => ?_⟩
    have streak := h.streak calm
    have failed := h.failed calm
    show r.context.stats.failed ≤ (r.context.counters.submitted + 1) * (s.options.maxFailures - 1) + 0
    rw [Nat.succ_mul]
    omega
  | @close i p v _ here =>
    refine h.frame (fun calm => ?_) (by simp) (by simp) (by simp)
    rw [Pending.fatal_count] at calm
    cases v with
    | settled | lost => exact calm
    | expired => simp at calm

/-- As long as the count is not reached and nothing fatal was raised, an admission is left. -/
theorem nextIndex_lt (h : Sparing limit r) (ledger : Ledger r ds) (calm : r.context.fatal.count = 0) {count : Nat}
    (short : r.context.counters.accounted < count) : r.context.counters.nextIndex < count * limit := by
  have streak := h.streak calm
  have failed := h.failed calm
  have total := ledger.total
  obtain ⟨least, rfl⟩ : ∃ least, limit = least + 1 := ⟨limit - 1, by omega⟩
  rw [Nat.add_sub_cancel] at failed
  unfold Counters.accounted at short
  generalize r.context.counters.submitted = submitted at *
  generalize r.context.counters.inFlight = inFlight at *
  calc r.context.counters.nextIndex
      ≤ submitted + inFlight + (submitted * least + least) := by omega
    _ ≤ submitted + inFlight + ((submitted + inFlight) * least + least) := by
        have := Nat.mul_le_mul_right least (Nat.le_add_right submitted inFlight)
        omega
    _ < (submitted + inFlight + 1) * (least + 1) := by rw [Nat.succ_mul, Nat.mul_succ]; omega
    _ ≤ count * (least + 1) := Nat.mul_le_mul_right _ short

end Sparing

/-! ## The admissions are bounded -/

/-- **What bounds a run** with a count and a limit of failures in a row. -/
structure Bounded (s : Setup) (r : Run) (ds : List Action) : Prop where
  ending : Ending r
  ledger : Ledger r ds
  quota : Quota s.options.count r ds
  sparing : Sparing s.options.maxFailures r
  admissions : r.context.counters.nextIndex ≤ s.options.count * s.options.maxFailures

namespace Bounded

variable {s : Setup} {r r' : Run} {ds : List Action} {d : Option Action}

theorem start (s : Setup) (pool : Pool) (registry : Registry) (now : Nat) (limited : 0 < s.options.count)
    (strict : 0 < s.options.maxFailures) : Bounded s (Run.start s pool registry now) [] :=
  ⟨.start s pool registry now, .start s pool registry now, .start s pool registry now limited,
    .start s pool registry now strict, Nat.zero_le _⟩

/-- A loop that goes on admitting has an admission left, unless something fatal was raised. -/
theorem nextIndex_lt (h : Bounded s r ds) (admitting : r.main.isAdmitting) (calm : r.context.fatal.count = 0) :
    r.context.counters.nextIndex < s.options.count * s.options.maxFailures :=
  h.sparing.nextIndex_lt h.ledger calm (h.quota.short admitting)

theorem calm (h : Bounded s r ds) (admitting : r.main.isAdmitting) (calm : r.context.fatal.first = none) :
    r.context.fatal.count = 0 := by
  refine h.ending.calm (fun e main => ?_) calm
  rw [main] at admitting
  cases admitting

/-- **Every move stays bounded.** -/
theorem move (h : Bounded s r ds) (limited : 0 < s.options.count) (strict : 0 < s.options.maxFailures)
    (m : Move s r d r') : Bounded s r' (ds ++ d.toList) := by
  refine ⟨h.ending.move m, h.ledger.move m, h.quota.move h.ledger limited m, h.sparing.move strict m, ?_⟩
  have old := h.admissions
  cases m with
  | enter calm enters =>
    have admitting : r.main.isAdmitting := by
      rcases enters with ⟨main, -⟩ | ⟨main, -⟩ <;> rw [main] <;> rfl
    exact h.nextIndex_lt admitting (h.calm admitting calm)
  | fail | close => simpa [Counters.finish] using old
  | _ => exact old

theorem after (s : Setup) (pool : Pool) (registry : Registry) (now : Nat) (events : List Event)
    (limited : 0 < s.options.count) (strict : 0 < s.options.maxFailures) :
    Bounded s ((Run.start s pool registry now).after s events) ((Run.start s pool registry now).trace s events) :=
  Run.after_induction (start s pool registry now limited strict) (fun h m => h.move limited strict m) events

end Bounded

/-! ## The loop goes on only so often -/

/-- How often the loop may look at the throughput from some time on, until that allows all that the count asks for. -/
def Options.looks (o : Options) (elapsed : Nat) : Nat :=
  (o.count * max o.slot 1 + (pollInterval - 1) - elapsed) / pollInterval

/-- A run below its count is ahead only as long as the slots that have begun are fewer than the count. -/
theorem elapsed_lt_of_ahead {count accounted elapsed slot throughput : Nat} (fits : count ≤ word64Max)
    (short : accounted < count) (h : ahead accounted elapsed slot throughput) : elapsed < count * max slot 1 := by
  simp only [ahead, Bool.and_eq_true, decide_eq_true_eq] at h
  have reached : slotsBegun elapsed slot ≤ accounted := (Nat.div_pos_iff.1 (Nat.lt_of_lt_of_le h.1 h.2)).2
  have begun : elapsed / max slot 1 < count := by
    unfold slotsBegun at reached
    omega
  exact (Nat.div_lt_iff_lt_mul (Nat.le_max_right _ _)).1 begun

namespace Options

variable {o : Options} {elapsed elapsed' : Nat}

theorem looks_le (later : elapsed ≤ elapsed') : o.looks elapsed' ≤ o.looks elapsed :=
  Nat.div_le_div_right (Nat.sub_le_sub_left later _)

theorem looks_lt (early : elapsed < o.count * max o.slot 1) (later : elapsed + pollInterval ≤ elapsed') :
    o.looks elapsed' < o.looks elapsed := by
  unfold looks pollInterval at *
  omega

end Options

namespace Run

variable {s : Setup} {r r' : Run} {ds : List Action} {d : Option Action}

/-- The loop goes on with its admissions in an event. -/
def goesOn (r : Run) : Event → Bool
  | .resume => r.main.isAdmitting && r.mainReady
  | _ => false

/-- How often the loop goes on with its admissions in a sequence of events. -/
def laps (s : Setup) : Run → List Event → Nat
  | _, [] => 0
  | r, e :: events => (r.goesOn e).toNat + laps s (r.step s e) events

/-- How often the loop can still go on: twice for every admission that is left, as it may have to wait for a slot, once
for every look at the throughput, and once to return. -/
def remaining (s : Setup) (r : Run) : Nat :=
  let admissions := s.options.count * s.options.maxFailures - r.context.counters.nextIndex
  match r.main with
  | .acquiring => 2 * admissions + s.options.looks (r.context.elapsed r.now) + 2
  | .waiting => 2 * admissions + s.options.looks (r.context.elapsed r.now) + 1
  | .pacing till => 2 * admissions + s.options.looks (r.context.elapsed (till - pollInterval)) + 2
  | _ => 0

/-- **A loop that waits for the throughput looked at it** while that did not allow the whole count yet. -/
structure Looked (s : Setup) (r : Run) : Prop where
  begun : r.context.started ≤ r.now
  waits : ∀ till, r.main = .pacing till → r.context.started + pollInterval ≤ till ∧
    r.context.elapsed (till - pollInterval) < s.options.count * max s.options.slot 1

namespace Looked

theorem start (s : Setup) (pool : Pool) (registry : Registry) (now : Nat) :
    Looked s (Run.start s pool registry now) where
  begun := Nat.le_refl _
  waits _ main := by cases main

/-- A move after which the loop does not wait for another time. -/
theorem frame (h : Looked s r) (started : r'.context.started = r.context.started) (later : r.now ≤ r'.now)
    (main : ∀ till, r'.main = .pacing till → r.main = .pacing till) : Looked s r' where
  begun := by
    have := h.begun
    omega
  waits till waiting := by
    unfold Context.elapsed
    rw [started]
    exact h.waits till (main till waiting)

/-- A loop that has looked waits until the next look. -/
theorem of_paced (begun : r.context.started ≤ r.now) (fits : s.options.count ≤ word64Max)
    (short : r.context.counters.accounted < s.options.count) {till : Nat} (main : r.paced s = .pacing till) :
    till = r.now + pollInterval ∧ r.context.started + pollInterval ≤ till ∧
      r.context.elapsed (till - pollInterval) < s.options.count * max s.options.slot 1 := by
  unfold paced at main
  split at main
  · next isAhead =>
    cases main
    rw [Nat.add_sub_cancel]
    exact ⟨rfl, Nat.add_le_add_right begun _, elapsed_lt_of_ahead fits short isAhead⟩
  · cases main

/-- **Every move keeps this.** -/
theorem move (h : Looked s r) (bounded : Bounded s r' ds) (fits : s.options.count ≤ word64Max) (m : Move s r d r') :
    Looked s r' := by
  have short {till : Nat} (main : r'.main = .pacing till) : r'.context.counters.accounted < s.options.count :=
    bounded.quota.short (by rw [main]; rfl)
  cases m with
  | rest later => exact h.frame rfl later fun _ => id
  | enter =>
    refine ⟨h.begun, fun till main => ?_⟩
    have admitted := short main
    rw [main_beginDispatch] at main
    split at main
    · cases main
    · exact (of_paced (by exact h.begun) fits admitted main).2
  | pace => exact ⟨h.begun, fun till main => (of_paced h.begun fits (short main) main).2⟩
  | queue | join | conclude | abort => exact h.frame rfl (Nat.le_refl _) nofun
  | quote | assemble | submit | watch | breakOff => exact h.frame rfl (Nat.le_refl _) fun _ => id
  | fail | close => exact h.frame (by simp) (Nat.le_refl _) fun _ => id

end Looked

/-- What is left of a run in which nothing moves but the clock. -/
theorem remaining_le (counters : r'.context.counters.nextIndex = r.context.counters.nextIndex)
    (started : r'.context.started = r.context.started) (later : r.now ≤ r'.now) (main : r'.main = r.main) :
    r'.remaining s ≤ r.remaining s := by
  have looks : s.options.looks (r'.context.elapsed r'.now) ≤ s.options.looks (r.context.elapsed r.now) := by
    refine Options.looks_le ?_
    unfold Context.elapsed
    rw [started]
    exact Nat.sub_le_sub_right later _
  unfold remaining
  rw [main, counters]
  cases r.main with
  | acquiring | waiting => exact Nat.add_le_add_right (Nat.add_le_add_left looks _) _
  | pacing till => simp only [Context.elapsed, started]; exact Nat.le_refl _
  | _ => exact Nat.le_refl _

/-- What is left when the loop has looked at the throughput, whether it waits or not. -/
theorem remaining_of_paced (main : r'.main = r.paced s) (context : r'.context = r.context) (now : r'.now = r.now) :
    r'.remaining s = 2 * (s.options.count * s.options.maxFailures - r.context.counters.nextIndex) +
      s.options.looks (r.context.elapsed r.now) + 2 := by
  cases ahead : r.isAhead s with
  | true =>
    have waits : r.paced s = .pacing (r.now + pollInterval) := by simp [paced, ahead]
    simp only [remaining, main, context, waits, Nat.add_sub_cancel]
  | false =>
    have goes : r.paced s = .acquiring := by simp [paced, ahead]
    simp only [remaining, main, context, now, goes]

theorem remaining_pos (admitting : r.main.isAdmitting) : 0 < r.remaining s := by
  unfold remaining
  cases main : r.main with
  | acquiring | waiting | pacing => exact Nat.succ_pos _
  | _ => rw [main] at admitting; cases admitting

section Laps

variable (bounded : Bounded s r ds)
include bounded

/-- An admission leaves less. -/
theorem remaining_enter {gate : Gate} (calm : r.context.fatal.first = none) (enters : r.Enters gate) :
    (r.beginDispatch s gate).remaining s < r.remaining s := by
  have admitting : r.main.isAdmitting := by
    rcases enters with ⟨main, -⟩ | ⟨main, -⟩ <;> rw [main] <;> rfl
  have left := bounded.nextIndex_lt admitting (bounded.calm admitting calm)
  have after : (r.beginDispatch s gate).remaining s ≤ 2 * (s.options.count * s.options.maxFailures -
      (r.context.counters.nextIndex + 1)) + s.options.looks (r.context.elapsed r.now) + 2 := by
    cases complete : (r.beginDispatch s gate).isComplete s with
    | true =>
      have main : (r.beginDispatch s gate).main = .joining := by rw [main_beginDispatch, if_pos complete]
      simp only [remaining, main]
      exact Nat.zero_le _
    | false =>
      have main : (r.beginDispatch s gate).main = (r.beginDispatch s gate).paced s := by
        rw [main_beginDispatch, complete]
        rfl
      exact Nat.le_of_eq (remaining_of_paced main rfl rfl)
  have before : 2 * (s.options.count * s.options.maxFailures - r.context.counters.nextIndex) +
      s.options.looks (r.context.elapsed r.now) + 1 ≤ r.remaining s := by
    rcases enters with ⟨main, -⟩ | ⟨main, -⟩ <;> simp only [remaining, main] <;> omega
  omega

omit bounded in
/-- A look at the throughput leaves less. -/
theorem remaining_pace {till : Nat} (looked : Looked s r) (main : r.main = .pacing till) (due : till ≤ r.now) :
    { r with main := r.paced s }.remaining s < r.remaining s := by
  obtain ⟨begun, early⟩ := looked.waits till main
  have later : r.context.elapsed (till - pollInterval) + pollInterval ≤ r.context.elapsed r.now := by
    unfold Context.elapsed
    omega
  have fewer := Options.looks_lt early later
  have after : { r with main := r.paced s }.remaining s = _ := remaining_of_paced rfl rfl rfl
  have before : r.remaining s = 2 * (s.options.count * s.options.maxFailures - r.context.counters.nextIndex) +
      s.options.looks (r.context.elapsed (till - pollInterval)) + 2 := by simp only [remaining, main]
  omega

/-- **No move leaves more.** -/
theorem remaining_move (looked : Looked s r) (m : Move s r d r') : r'.remaining s ≤ r.remaining s := by
  cases m with
  | rest later => exact remaining_le rfl rfl later rfl
  | enter calm enters => exact Nat.le_of_lt (remaining_enter bounded calm enters)
  | queue calm main => simp only [remaining, main]; exact Nat.le_succ _
  | pace calm main due => exact Nat.le_of_lt (remaining_pace looked main due)
  | join | conclude | abort => exact Nat.zero_le _
  | quote | assemble | submit | watch | breakOff => exact remaining_le rfl rfl (Nat.le_refl _) rfl
  | fail | close => exact remaining_le (by simp [Counters.finish]) (by simp) (Nat.le_refl _) rfl

/-- **A loop that goes on leaves less.** -/
theorem remaining_resume (looked : Looked s r) :
    (r.goesOn .resume).toNat + (r.resume s).remaining s ≤ r.remaining s := by
  have kept : (r.resume s).remaining s ≤ r.remaining s := remaining_move bounded looked (move_step s r .resume)
  cases on : r.goesOn .resume with
  | false => simpa using kept
  | true =>
    obtain ⟨admitting, ready⟩ : r.main.isAdmitting ∧ r.mainReady := by simpa [goesOn] using on
    have running : r.result? = none := by
      unfold result?
      split
      · next main => rw [main] at admitting; cases admitting
      · rfl
    suffices less : (r.resume s).remaining s < r.remaining s by
      simp only [Bool.toNat_true]
      omega
    cases calm : r.context.fatal.first with
    | some e =>
      rw [resume_of_raised running calm]
      exact remaining_pos admitting
    | none =>
      rw [resume_of_calm running calm]
      cases main : r.main with
      | acquiring =>
        cases take : r.context.gate.take? with
        | some gate =>
          simp only [advance, main, take]
          exact remaining_enter bounded calm (.inl ⟨main, take⟩)
        | none =>
          simp only [advance, main, take, remaining]
          exact Nat.lt_succ_self _
      | waiting =>
        have handed : r.context.gate.handed = true := by simpa [mainReady, main, calm] using ready
        have receive : r.context.gate.receive? = some { r.context.gate with waiting := false, handed := false } := by
          simp [Gate.receive?, handed]
        simp only [advance, main, receive]
        exact remaining_enter bounded calm (.inr ⟨main, receive⟩)
      | pacing till =>
        have due : till ≤ r.now := by simpa [mainReady, main, calm] using ready
        simp only [advance, main, if_pos due]
        exact remaining_pace looked main due
      | _ => rw [main] at admitting; cases admitting

end Laps

/-- **What is left bounds how often the loop goes on.** -/
theorem laps_le (bounded : Bounded s r ds) (looked : Looked s r) (limited : 0 < s.options.count)
    (strict : 0 < s.options.maxFailures) (fits : s.options.count ≤ word64Max) (events : List Event) :
    r.laps s events + (r.after s events).remaining s ≤ r.remaining s := by
  induction events generalizing r ds with
  | nil => exact Nat.le_of_eq (Nat.zero_add _)
  | cons e events ih =>
    have m := move_step s r e
    have bounded' := bounded.move limited strict m
    have later := ih bounded' (looked.move bounded' fits m)
    have now : (r.goesOn e).toNat + (r.step s e).remaining s ≤ r.remaining s := by
      cases e with
      | resume => exact remaining_resume bounded looked
      | _ =>
        show 0 + _ ≤ _
        rw [Nat.zero_add]
        exact remaining_move bounded looked m
    calc r.laps s (e :: events) + (r.after s (e :: events)).remaining s
        = (r.goesOn e).toNat + ((r.step s e).laps s events + ((r.step s e).after s events).remaining s) :=
          Nat.add_assoc _ _ _
      _ ≤ r.remaining s := by omega

end Run

/-! ## The admissions end -/

/-- A loop that does not admit any more has reached its count, or has returned the first fatal failure. -/
theorem Main.isFull_or_returned {main : Main} (done : main.isAdmitting = false) :
    main.isFull ∨ ∃ e, main = .returned (.error e) := by
  cases main with
  | acquiring | waiting | pacing => cases done
  | joining | confirming => exact .inl rfl
  | returned result =>
    cases result with
    | ok summary => exact .inl rfl
    | error e => exact .inr ⟨e, rfl⟩

/-- **A run with a count and a limit of failures in a row admits only so often**, whatever the answers and the order of
the events: at most the count times the limit.

As long as the loop admits and nothing fatal was raised, fewer are admitted, so it is done with the last of them: the
count was reached by what is submitted, in flight or failed since, or the first fatal failure is returned. Until then
the loop stands still only when it waits for a slot or for its next look at the throughput; and for a count that fits a
64-bit word it goes on only so often, whatever happens meanwhile. -/
theorem admissions_end (s : Setup) (pool : Pool) (registry : Registry) (now : Nat) (events : List Event)
    (limited : 0 < s.options.count) (strict : 0 < s.options.maxFailures) :
    let start := Run.start s pool registry now
    let r := start.after s events
    let ds := start.trace s events
    let most := s.options.count * s.options.maxFailures
    r.context.counters.nextIndex ≤ most ∧
      (ds.filterMap Action.admission?).length ≤ most ∧
      (r.main.isAdmitting → raises s.options ds = [] → r.context.counters.nextIndex < most) ∧
      (r.main.isAdmitting = false →
        r.context.counters.submitted + r.context.counters.inFlight + lateFailures ds = s.options.count ∨
          ∃ e, r.result? = some (.error e) ∧ (raises s.options ds).head? = some e) ∧
      (r.main.isAdmitting → r.mainReady = false →
        r.main = .waiting ∧ r.context.gate.handed = false ∨ ∃ till, r.main = .pacing till ∧ r.now < till) ∧
      (s.options.count ≤ word64Max →
        start.laps s events ≤ 2 * most + (s.options.count * max s.options.slot 1 + 99) / 100 + 2) := by
  intro start r ds most
  have bounded : Bounded s r ds := Bounded.after s pool registry now events limited strict
  have signal : Signal s r ds := Signal.after s pool registry now events
  refine ⟨bounded.admissions, ?told, ?left, ?done, ?still, ?laps⟩
  case told =>
    rw [bounded.ledger.indices, List.length_range]
    exact bounded.admissions
  case left =>
    intro admitting none
    refine bounded.nextIndex_lt admitting ?_
    rw [signal.count, none]
    rfl
  case done =>
    intro finished
    rcases Main.isFull_or_returned finished with full | ⟨e, main⟩
    · exact .inl (bounded.quota.full full)
    · exact .inr ⟨e, by rw [Run.result?, main], signal.taken e main⟩
  case still =>
    intro admitting idle
    unfold Run.mainReady at idle
    split at idle
    · next main => rw [main] at admitting; cases admitting
    · cases idle
    · cases idle
    · next main _ => exact .inl ⟨main, idle⟩
    · next till main _ => exact .inr ⟨till, main, Nat.lt_of_not_le (of_decide_eq_false idle)⟩
    · next main _ => rw [main] at admitting; cases admitting
    · next main _ => rw [main] at admitting; cases admitting
  case laps =>
    intro fits
    have all : start.laps s events + r.remaining s ≤ start.remaining s :=
      Run.laps_le (.start s pool registry now limited strict) (.start s pool registry now) limited strict fits events
    have first : start.remaining s = 2 * most + (s.options.count * max s.options.slot 1 + 99) / 100 + 2 := by
      show 2 * (most - 0) + (_ + 99 - (now - now)) / 100 + 2 = _
      rw [Nat.sub_self, Nat.sub_zero, Nat.sub_zero]
    omega

/-- Two dispatches are asked for, two failures in a row are too many, and no endpoint is good: the first dispatch
is replaced, and the failure of the second one ends the run with three admissions of four. -/
theorem admissions_end_two :
    let s : Setup := ⟨{ Options.standard with count := 2, maxFailures := 2 }, .transfer none 0 false, ⟨0, 0⟩, .direct,
      [], fun _ => ⟨0, 0, 0⟩⟩
    let registry : Registry := ⟨.ofKey ⟨1, by decide, by decide⟩ 1, #[.ofKey ⟨2, by decide, by decide⟩ 1], 0⟩
    let r := (Run.start s ⟨1, [], 0⟩ registry 0).after s [.resume, .begin 0, .resume, .resume, .begin 1, .resume]
    0 < s.options.count ∧ 0 < s.options.maxFailures ∧ r.context.counters.nextIndex = 3 ∧
      r.context.counters.nextIndex ≤ 2 * 2 := by
  intro s registry
  have limited : 0 < s.options.count := by decide
  have strict : 0 < s.options.maxFailures := by decide
  obtain ⟨most, -⟩ := admissions_end s ⟨1, [], 0⟩ registry 0 [.resume, .begin 0, .resume, .resume, .begin 1, .resume]
    limited strict
  dsimp only
  refine ⟨limited, strict, ?_, most⟩
  decide +kernel

end TxLoad.Dispatch
