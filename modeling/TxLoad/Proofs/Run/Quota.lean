import TxLoad.Proofs.Run.Ledger

/-!
# The count of a run

A run with a count stops its admissions when as many dispatches are submitted or in flight as it asks for. A dispatch
that fails before that is replaced; one that fails afterwards is not.

- `lateFailures` counts the failures since the last admission;
- `Quota` says how far the loop is from the count, and is kept by every move (`Quota.move`): the count is not reached
  while the loop admits, and afterwards only late failures are missing;
- **the count is never exceeded, and only late failures fall short of it** (`count_respected`).
-/

namespace TxLoad.Dispatch

namespace Action

/-- A dispatch is admitted. -/
def isAdmission : Action → Bool
  | admitted _ => true
  | _ => false

/-- A dispatch fails. -/
def isFailure : Action → Bool
  | failed _ _ _ => true
  | _ => false

/-- A dispatch is submitted. -/
def isSubmission : Action → Bool
  | submitted _ _ => true
  | _ => false

end Action

/-- The number of dispatches that failed since the last admission. -/
def lateFailures (ds : List Action) : Nat := (ds.reverse.takeWhile (!·.isAdmission)).countP Action.isFailure

/-- An admission begins anew; what comes after it is counted if it is a failure. -/
theorem lateFailures_concat (ds : List Action) (d : Action) :
    lateFailures (ds ++ [d]) = if d.isAdmission then 0 else lateFailures ds + d.isFailure.toNat := by
  rw [lateFailures, List.reverse_concat, List.takeWhile_cons]
  cases admission : d.isAdmission with
  | true => simp
  | false => cases failure : d.isFailure <;> simp [failure, lateFailures]

namespace Main

/-- The loop goes on admitting. -/
def isAdmitting : Main → Bool
  | acquiring | waiting | pacing _ => true
  | _ => false

/-- The loop has admitted all that the count asks for. -/
def isFull : Main → Bool
  | joining | confirming | returned (.ok _) => true
  | _ => false

end Main

/-- **How far the loop is from the count.** -/
structure Quota (count : Nat) (r : Run) (ds : List Action) : Prop where
  short : r.main.isAdmitting → r.context.counters.accounted < count
  full : r.main.isFull → r.context.counters.accounted + lateFailures ds = count
  within : r.context.counters.accounted ≤ count
  submissions : r.context.counters.submitted = ds.countP Action.isSubmission

namespace Quota

variable {s : Setup} {count : Nat} {r r' : Run} {ds : List Action}

theorem start (s : Setup) (pool : Pool) (registry : Registry) (now : Nat) (limited : 0 < count) :
    Quota count (Run.start s pool registry now) [] where
  short _ := limited
  full h := by cases h
  within := Nat.zero_le _
  submissions := rfl

/-- A move that is not a failure, leaves the account as it is and does not bring the loop to another phase keeps the
quota. -/
theorem frame (h : Quota count r ds) {d : Option Action} (other : ∀ x ∈ d, x.isAdmission = false ∧ x.isFailure = false)
    (accounted : r'.context.counters.accounted = r.context.counters.accounted)
    (submitted : r'.context.counters.submitted = r.context.counters.submitted + d.toList.countP Action.isSubmission)
    (short : r'.main.isAdmitting → r.main.isAdmitting) (full : r'.main.isFull → r.main.isFull) :
    Quota count r' (ds ++ d.toList) where
  short admitting := by rw [accounted]; exact h.short (short admitting)
  full done := by
    have late : lateFailures (ds ++ d.toList) = lateFailures ds := by
      cases d with
      | none => simp
      | some x =>
        obtain ⟨admission, failure⟩ := other x rfl
        simp [lateFailures_concat, admission, failure]
    rw [accounted, late]
    exact h.full (full done)
  within := by rw [accounted]; exact h.within
  submissions := by rw [submitted, h.submissions, List.countP_append]

theorem isComplete_eq (s : Setup) (r : Run) (limited : 0 < s.options.count) :
    r.isComplete s = decide (s.options.count ≤ r.context.counters.accounted) := by
  simp [Run.isComplete, limited]

/-- An admission keeps the quota: the loop goes on only if the count is not reached. -/
theorem enter (h : Quota s.options.count r ds) (limited : 0 < s.options.count) {gate : Gate} (enters : r.Enters gate)
    (i : Nat) : Quota s.options.count (r.beginDispatch s gate) (ds ++ [.admitted i]) := by
  have admitting : r.main.isAdmitting := by
    rcases enters with ⟨main, -⟩ | ⟨main, -⟩ <;> rw [main] <;> rfl
  have short := h.short admitting
  have accounted : (r.beginDispatch s gate).context.counters.accounted = r.context.counters.accounted + 1 := by
    simp only [Run.beginDispatch, Context.begin, Counters.begin, Counters.accounted]
    omega
  have late : lateFailures (ds ++ [Action.admitted i]) = 0 := by rw [lateFailures_concat]; rfl
  have submissions : (r.beginDispatch s gate).context.counters.submitted =
      (ds ++ [Action.admitted i]).countP Action.isSubmission := by
    rw [List.countP_append, ← h.submissions]
    rfl
  cases complete : (r.beginDispatch s gate).isComplete s with
  | true =>
    have main : (r.beginDispatch s gate).main = .joining := by rw [Run.main_beginDispatch, if_pos complete]
    have reached : s.options.count ≤ (r.beginDispatch s gate).context.counters.accounted := by
      rw [isComplete_eq s _ limited] at complete
      exact of_decide_eq_true complete
    refine ⟨fun open_ => ?_, fun _ => ?_, ?_, submissions⟩
    · rw [main] at open_
      cases open_
    · omega
    · omega
  | false =>
    have missing : ¬ s.options.count ≤ (r.beginDispatch s gate).context.counters.accounted := by
      rw [isComplete_eq s _ limited] at complete
      exact of_decide_eq_false complete
    refine ⟨fun _ => by omega, fun full => ?_, by omega, submissions⟩
    rw [Run.main_beginDispatch, complete, if_neg (by simp), Run.paced] at full
    split at full <;> cases full

/-- A failure keeps the quota: one dispatch less is accounted for, and it is late if the loop is done. -/
theorem fail (h : Quota count r ds) (live : 0 < r.context.counters.inFlight)
    (counters : r'.context.counters = r.context.counters.finish false) (main : r'.main = r.main) (i : Nat)
    (loss : Option (Nat × Nat)) (e : Failure) : Quota count r' (ds ++ [.failed i loss e]) := by
  have accounted : r'.context.counters.accounted + 1 = r.context.counters.accounted := by
    simp only [counters, Counters.finish, Counters.accounted, Bool.toNat_false]
    omega
  have late : lateFailures (ds ++ [Action.failed i loss e]) = lateFailures ds + 1 := by rw [lateFailures_concat]; rfl
  have within := h.within
  refine ⟨fun admitting => ?_, fun full => ?_, by omega, ?_⟩
  · have := h.short (main ▸ admitting)
    omega
  · have := h.full (main ▸ full)
    omega
  · rw [List.countP_append, ← h.submissions, counters]
    rfl

/-- **Every move keeps the quota.** -/
theorem move (h : Quota s.options.count r ds) (ledger : Ledger r ds) (limited : 0 < s.options.count) {d : Option Action}
    (m : Move s r d r') : Quota s.options.count r' (ds ++ d.toList) := by
  cases m with
  | rest | quote | watch | breakOff => exact h.frame (by simp) rfl rfl id id
  | assemble => exact h.frame (by simp [Action.isAdmission, Action.isFailure]) rfl rfl id id
  | enter calm enters => exact h.enter limited enters _
  | queue calm main => exact h.frame (by simp) rfl rfl (fun _ => by rw [main]; rfl) nofun
  | pace calm main =>
    refine h.frame (by simp) rfl rfl (fun _ => by rw [main]; rfl) fun full => ?_
    simp only [Run.paced] at full
    split at full <;> cases full
  | join calm main => exact h.frame (by simp) rfl rfl nofun (fun _ => by rw [main]; rfl)
  | conclude calm main => exact h.frame (by simp) rfl rfl nofun (fun _ => by rw [main]; rfl)
  | abort => exact h.frame (by simp) rfl rfl nofun nofun
  | @fail i _ st _ _ _ _ _ here spends =>
    have standing : r.standing? i = some .dispatching := by
      rw [Run.standing?, here, Option.map_some, Stage.standing_of_spends spends]
    refine h.fail (ledger.inFlight_pos standing) ?_ ?_ _ _ _
    · simp
    · rfl
  | @submit i _ _ _ _ here =>
    have standing : r.standing? i = some .dispatching := by rw [Run.standing?, here]; rfl
    have live := ledger.inFlight_pos standing
    refine h.frame (by simp [Action.isAdmission, Action.isFailure]) ?_ rfl id id
    simp only [Context.submit, Context.finish, Counters.finish, Counters.accounted, Bool.toNat_true]
    omega
  | close =>
    refine h.frame (by simp [Action.isAdmission, Action.isFailure]) ?_ ?_ id id
    · simp
    · simp [Action.isSubmission]

/-- Every run keeps the quota. -/
theorem after (s : Setup) (pool : Pool) (registry : Registry) (now : Nat) (events : List Event)
    (limited : 0 < s.options.count) :
    Quota s.options.count ((Run.start s pool registry now).after s events)
      ((Run.start s pool registry now).trace s events) := by
  have both := Run.after_induction (P := fun r ds => Ledger r ds ∧ Quota s.options.count r ds)
    ⟨Ledger.start s pool registry now, start s pool registry now limited⟩
    (fun ⟨ledger, quota⟩ m => ⟨ledger.move m, quota.move ledger limited m⟩) events
  exact both.2

end Quota

/-! ## The count is respected -/

/-- **The count is never exceeded**, after any events in any order: neither by what is submitted or in flight, nor by
what was ever submitted. What a run that returns a summary has not submitted are the dispatches that failed after the
last admission. -/
theorem count_respected (s : Setup) (pool : Pool) (registry : Registry) (now : Nat) (events : List Event)
    (limited : 0 < s.options.count) :
    let start := Run.start s pool registry now
    let r := start.after s events
    let ds := start.trace s events
    r.context.counters.submitted + r.context.counters.inFlight ≤ s.options.count ∧
      ds.countP Action.isSubmission ≤ s.options.count ∧
      ∀ summary, r.result? = some (.ok summary) →
        summary.submitted + lateFailures ds = s.options.count ∧
          (summary.submitted = s.options.count ↔ lateFailures ds = 0) := by
  intro start r ds
  have quota : Quota s.options.count r ds := Quota.after s pool registry now events limited
  have ledger : Ledger r ds := Ledger.after s pool registry now events
  have within : r.context.counters.submitted + r.context.counters.inFlight ≤ s.options.count := quota.within
  have submissions : r.context.counters.submitted = ds.countP Action.isSubmission := quota.submissions
  refine ⟨within, by omega, fun summary ok => ?_⟩
  have ended := (Ending.after s pool registry now events).ended ok
  have full : r.main.isFull := by
    unfold Run.result? at ok
    split at ok
    · next main => cases ok; rw [main]; rfl
    · cases ok
  have reached : r.context.counters.submitted + r.context.counters.inFlight + lateFailures ds = s.options.count :=
    quota.full full
  have idle : r.context.counters.inFlight = 0 := ledger.inFlight.trans ended.idle
  have told : summary.submitted = r.context.counters.submitted := by
    obtain ⟨moment, rfl⟩ := ended.told
    rfl
  omega

/-- Two dispatches are asked for and no endpoint is good: the first is replaced, the last two are late. -/
theorem count_respected_two :
    let s : Setup := ⟨{ Options.standard with count := 2 }, .transfer none 0 false, ⟨0, 0⟩, .direct, [],
      fun _ => ⟨0, 0, 0⟩⟩
    let registry : Registry := ⟨.ofKey ⟨1, by decide, by decide⟩ 1, #[.ofKey ⟨2, by decide, by decide⟩ 1], 0⟩
    let events : List Event := [.resume, .begin 0, .resume, .resume, .begin 2, .begin 1, .resume, .resume]
    let start := Run.start s ⟨1, [], 0⟩ registry 0
    0 < s.options.count ∧ (start.after s events).result? = some (.ok ⟨3, 0, 3, 0, 0, 0, 0, 0, 0⟩) ∧
      lateFailures (start.trace s events) = 2 := by
  intro s registry events start
  have limited : 0 < s.options.count := by decide
  have ok : (start.after s events).result? = some (.ok ⟨3, 0, 3, 0, 0, 0, 0, 0, 0⟩) :=
    Run.result?_of_toOption (by decide +kernel)
  obtain ⟨-, -, short⟩ := count_respected s ⟨1, [], 0⟩ registry 0 events limited
  exact ⟨limited, ok, by simpa using (short _ ok).1⟩

end TxLoad.Dispatch
