import Mathlib.Data.List.DropRight
import TxLoad.Proofs.Run.Alerts

/-!
# When a run has stalled

A run has stalled when so many dispatches fail in a row as its options say. What counts is the order in which dispatches
are completed, not the one in which they were admitted, and a single submission begins the count anew.

- `completions` lists how the dispatches of a trace were completed; `failuresSince` counts the failures since the
  last submission, and `InARow` says that some failures came in a row;
- `streakFrom_eq`: the failures in a row that a run remembers are those since the last submission;
- `stalls_ne_nil_iff` and `exists_row_of_head?_stalls`: when a run stalls, and what it says then;
- **a run stalls exactly when its limit of failures in a row is reached** (`stalls_exact`).
-/

namespace TxLoad

/-- The run has stalled. -/
def Failure.isStall : Failure → Bool
  | dispatchStalled _ _ => true
  | _ => false

namespace Dispatch

/-! ## Completions -/

/-- How a dispatch is completed: it is submitted, or it fails. -/
def Action.completion? : Action → Option (Except Failure Unit)
  | submitted _ _ => some (.ok ())
  | failed _ _ e => some (.error e)
  | _ => none

/-- How the dispatches of a trace were completed, in that order. -/
def completions (ds : List Action) : List (Except Failure Unit) := ds.filterMap Action.completion?

/-- The failures since the last submission. -/
def failuresSince (cs : List (Except Failure Unit)) : Nat := (cs.rtakeWhile (!·.isOk)).length

/-- Somewhere there are `n` failures in a row. -/
def InARow (n : Nat) (cs : List (Except Failure Unit)) : Prop :=
  ∃ es : List Failure, es.length = n ∧ es.map .error <:+: cs

variable {cs : List (Except Failure Unit)} {n : Nat} {e : Failure} {o : Options} {ds : List Action}

theorem completions_concat (ds : List Action) (d : Action) :
    completions (ds ++ [d]) = completions ds ++ d.completion?.toList := by
  rw [completions, List.filterMap_append]
  cases h : d.completion? <;> simp [completions, h]

@[simp] theorem failuresSince_ok (u : Unit) : failuresSince (cs ++ [.ok u]) = 0 := by
  rw [failuresSince, List.rtakeWhile_concat]
  rfl

@[simp] theorem failuresSince_error : failuresSince (cs ++ [.error e]) = failuresSince cs + 1 := by
  rw [failuresSince, List.rtakeWhile_concat]
  exact List.length_append

/-- **The failures in a row are those since the last submission.** -/
theorem streakFrom_eq (ds : List Action) : streakFrom 0 ds = failuresSince (completions ds) := by
  induction ds using List.reverseRecOn with
  | nil => rfl
  | append_singleton ds d ih =>
    have last : streakFrom 0 (ds ++ [d]) = d.streak (streakFrom 0 ds) := List.foldl_append ..
    rw [completions_concat, last, ih]
    cases d <;> simp [Action.streak, Action.completion?]

/-! ## Rows of failures -/

/-- The last `n` dispatches failed. -/
def EndsInARow (n : Nat) (cs : List (Except Failure Unit)) : Prop :=
  ∃ es : List Failure, es.length = n ∧ es.map .error <:+ cs

/-- A row at the end is one failure longer than the row before the last dispatch, which failed. -/
theorem endsInARow_concat {c : Except Failure Unit} :
    EndsInARow (n + 1) (cs ++ [c]) ↔ (∃ e, c = .error e) ∧ EndsInARow n cs := by
  constructor
  · rintro ⟨es, length, ends⟩
    rcases List.eq_nil_or_concat es with rfl | ⟨es, e, rfl⟩
    · cases length
    · rcases List.suffix_concat_iff.1 ends with empty | ⟨t, split, before⟩
      · simp at empty
      · rw [List.concat_eq_append, List.map_append] at split
        obtain ⟨rfl, last⟩ := List.append_inj' split rfl
        cases last
        exact ⟨⟨e, rfl⟩, es, by simpa using length, before⟩
  · rintro ⟨⟨e, rfl⟩, es, length, ends⟩
    exact ⟨es ++ [e], by simp [length], List.suffix_concat_iff.2 (.inr ⟨_, List.map_append, ends⟩)⟩

/-- **The failures since the last submission stand at the end.** -/
theorem endsInARow_iff : EndsInARow n cs ↔ n ≤ failuresSince cs := by
  induction cs using List.reverseRecOn generalizing n with
  | nil => simp [EndsInARow, failuresSince, eq_comm]
  | append_singleton cs c ih =>
    cases n with
    | zero => simp [EndsInARow]
    | succ n =>
      rw [endsInARow_concat, ih]
      cases c <;> simp

theorem inARow_concat {c : Except Failure Unit} : InARow n (cs ++ [c]) ↔ EndsInARow n (cs ++ [c]) ∨ InARow n cs := by
  simp only [InARow, EndsInARow, List.infix_concat_iff, and_or_left, exists_or]

theorem EndsInARow.inARow (h : EndsInARow n cs) : InARow n cs := by
  obtain ⟨es, length, ends⟩ := h
  exact ⟨es, length, ends.isInfix⟩

theorem inARow_concat_ok (pos : 0 < n) : InARow n (cs ++ [.ok ()]) ↔ InARow n cs := by
  rw [inARow_concat, endsInARow_iff, failuresSince_ok, or_iff_right (Nat.not_le.2 pos)]

theorem inARow_concat_error : InARow n (cs ++ [.error e]) ↔ n ≤ failuresSince cs + 1 ∨ InARow n cs := by
  rw [inARow_concat, endsInARow_iff, failuresSince_error]

/-! ## Stalls -/

/-- The times that a run has stalled in a trace. -/
def stalls (o : Options) (ds : List Action) : List Failure := (raises o ds).filter Failure.isStall

/-- How a run stalls with an action, if there were `n` failures in a row. -/
def Action.stall? (o : Options) (n : Nat) : Action → Option Failure
  | failed _ _ e => Run.stalled? o (n + 1) e
  | _ => none

/-- A run has stalled if it has a limit, and reached it. -/
theorem stalled?_eq_some_iff {f : Failure} : Run.stalled? o n e = some f ↔
    (0 < o.maxFailures ∧ o.maxFailures ≤ n) ∧ .dispatchStalled n e.message = f := by
  unfold Run.stalled?
  split
  · next enough => simp [enough]
  · next few => simp [few]

theorem Action.stall?_eq_some_iff {d : Action} {f : Failure} : d.stall? o n = some f ↔
    ∃ i loss e, d = .failed i loss e ∧ (0 < o.maxFailures ∧ o.maxFailures ≤ n + 1) ∧
      .dispatchStalled (n + 1) e.message = f := by
  cases d <;> simp [stall?, stalled?_eq_some_iff]

/-- Among what an action raises is a stall at most. -/
theorem Action.filter_raise? (o : Options) (n : Nat) (d : Action) :
    (d.raise? o n).toList.filter Failure.isStall = (d.stall? o n).toList := by
  cases d with
  | failed i loss e =>
    show (Run.stalled? o (n + 1) e).toList.filter Failure.isStall = (Run.stalled? o (n + 1) e).toList
    unfold Run.stalled?
    split <;> rfl
  | closed i p v => cases v <;> rfl
  | _ => rfl

theorem stalls_concat (o : Options) (ds : List Action) (d : Action) :
    stalls o (ds ++ [d]) = stalls o ds ++ (d.stall? o (failuresSince (completions ds))).toList := by
  rw [stalls, raises_concat, List.filter_append, Action.filter_raise?, streakFrom_eq, stalls]

/-- **A run stalls exactly when its limit of failures in a row is reached.** -/
theorem stalls_ne_nil_iff : stalls o ds ≠ [] ↔ 0 < o.maxFailures ∧ InARow o.maxFailures (completions ds) := by
  induction ds using List.reverseRecOn with
  | nil =>
    refine ⟨absurd rfl, ?_⟩
    rintro ⟨pos, es, length, within⟩
    rw [List.map_eq_nil_iff.1 (List.infix_nil.1 within)] at length
    exact absurd length (Nat.ne_of_lt pos)
  | append_singleton ds d ih =>
    have grows : stalls o (ds ++ [d]) ≠ [] ↔
        stalls o ds ≠ [] ∨ ∃ f, d.stall? o (failuresSince (completions ds)) = some f := by
      rw [stalls_concat, Ne, List.append_eq_nil_iff, Classical.not_and_iff_not_or_not]
      cases d.stall? o (failuresSince (completions ds)) <;> simp
    rw [grows, ih, completions_concat]
    cases d with
    | failed i loss e =>
      simp only [Action.stall?_eq_some_iff, Action.completion?, Option.toList_some]
      rw [inARow_concat_error]
      constructor
      · rintro (⟨pos, row⟩ | ⟨f, i', loss', e', -, ⟨pos, enough⟩, -⟩)
        · exact ⟨pos, .inr row⟩
        · exact ⟨pos, .inl enough⟩
      · rintro ⟨pos, enough | row⟩
        · exact .inr ⟨_, i, loss, e, rfl, ⟨pos, enough⟩, rfl⟩
        · exact .inl ⟨pos, row⟩
    | submitted i p =>
      simp only [Action.stall?, Action.completion?, Option.toList_some, reduceCtorEq, exists_false, or_false]
      exact and_congr_right fun pos => (inARow_concat_ok pos).symm
    | admitted | assembled | closed => simp [Action.stall?, Action.completion?]

/-- **What a run says when it first stalls**: the number of failures is its limit, and the failure is the one with which
the limit was reached. -/
theorem exists_row_of_head?_stalls {f : Failure} (first : (stalls o ds).head? = some f) :
    ∃ before es last later, completions ds = before ++ (es ++ [last]).map .error ++ later ∧
      es.length + 1 = o.maxFailures ∧ ¬ InARow o.maxFailures (before ++ es.map .error) ∧
      f = .dispatchStalled o.maxFailures last.message := by
  induction ds using List.reverseRecOn with
  | nil => cases first
  | append_singleton ds d ih =>
    rw [completions_concat]
    rw [stalls_concat, List.head?_append] at first
    cases old : stalls o ds with
    | cons f' rest =>
      rw [old] at first ih
      obtain ⟨before, es, last, later, all, length, short, said⟩ := ih first
      exact ⟨before, es, last, later ++ d.completion?.toList, by rw [all, List.append_assoc], length, short, said⟩
    | nil =>
      rw [old] at first
      have stall : d.stall? o (failuresSince (completions ds)) = some f := by simpa using first
      obtain ⟨i, loss, e, rfl, ⟨pos, enough⟩, rfl⟩ := Action.stall?_eq_some_iff.1 stall
      -- the run had not stalled before, so the failure at hand is the one that reaches the limit
      have short : ¬ InARow o.maxFailures (completions ds) := fun row => stalls_ne_nil_iff.2 ⟨pos, row⟩ old
      have below : failuresSince (completions ds) < o.maxFailures :=
        Nat.not_le.1 fun le => short (endsInARow_iff.2 le).inARow
      have limit : failuresSince (completions ds) + 1 = o.maxFailures := by omega
      obtain ⟨es, length, before, split⟩ := endsInARow_iff.2 (Nat.le_refl (failuresSince (completions ds)))
      refine ⟨before, es, e, [], ?_, by rw [length, limit], by rwa [split], by rw [limit]⟩
      rw [← split]
      simp [Action.completion?]

/-! ## What the run returns -/

namespace Signal

variable {s : Setup} {r : Run} {f : Failure}

/-- A run that has returned has returned what was raised first. -/
theorem result_eq (h : Signal s r ds) (first : (raises s.options ds).head? = some f)
    {result : Except Failure Summary} (returned : r.result? = some result) : result = .error f := by
  have main := Run.main_of_result? returned
  cases result with
  | ok summary =>
    rw [h.silent summary main] at first
    cases first
  | error f' =>
    cases (h.taken f' main).symm.trans first
    rfl

/-- A run that has not returned yet is ready to return what was raised first. -/
theorem resume_eq (h : Signal s r ds) (ending : Ending r) (first : (raises s.options ds).head? = some f)
    (running : r.result? = none) : r.mainReady ∧ (r.resume s).result? = some (.error f) := by
  have raised : raises s.options ds ≠ [] := by
    intro none
    rw [none] at first
    cases first
  obtain ⟨f', kept, first'⟩ := h.pending ending raised running
  cases first'.symm.trans first
  refine ⟨Run.mainReady_of_raised running kept, ?_⟩
  rw [Run.resume_of_raised running kept]
  rfl

end Signal

/-! ## The result -/

/-- **A run stalls exactly when its limit of failures in a row is reached**, in whatever order its dispatches are
completed.

The failures in a row that a run remembers are those since the last submission. What is raised is announced in the log,
in order. A run stalls if it has a limit and as many failures come in a row, and only then; a run without a limit never
does. When it first stalls, it tells the limit and the words of the failure with which the limit was reached. If nothing
else was raised before, this is what the run returns, and the loop is ready to return it at once. -/
theorem stalls_exact (s : Setup) (pool : Pool) (registry : Registry) (now : Nat) (events : List Event) :
    let r := (Run.start s pool registry now).after s events
    let ds := (Run.start s pool registry now).trace s events
    r.context.stats.streak = failuresSince (completions ds) ∧
      r.alerts = (raises s.options ds).map Failure.message ∧
      (stalls s.options ds ≠ [] ↔ 0 < s.options.maxFailures ∧ InARow s.options.maxFailures (completions ds)) ∧
      (s.options.maxFailures = 0 → stalls s.options ds = []) ∧
      ∀ f, (stalls s.options ds).head? = some f →
        (∃ before es last later, completions ds = before ++ (es ++ [last]).map .error ++ later ∧
          es.length + 1 = s.options.maxFailures ∧ ¬ InARow s.options.maxFailures (before ++ es.map .error) ∧
          f = .dispatchStalled s.options.maxFailures last.message) ∧
        ((raises s.options ds).head? = some f →
          (∀ result, r.result? = some result → result = .error f) ∧
          (r.result? = none → r.mainReady ∧ (r.resume s).result? = some (.error f))) := by
  intro r ds
  have ending : Ending r := Ending.after s pool registry now events
  have signal : Signal s r ds := Signal.after s pool registry now events
  refine ⟨?streak, Run.alerts_after s pool registry now events, stalls_ne_nil_iff, ?unlimited, ?first⟩
  case streak => rw [signal.streak, streakFrom_eq]
  case unlimited =>
    intro zero
    by_contra some
    have limit := (stalls_ne_nil_iff.1 some).1
    omega
  case first =>
    intro f first
    refine ⟨exists_row_of_head?_stalls first, fun alone => ⟨fun result returned => ?_, fun running => ?_⟩⟩
    · exact signal.result_eq alone returned
    · exact signal.resume_eq ending alone running

end Dispatch

end TxLoad
