import TxLoad.Proofs.Run.Quota

/-!
# Fatal failures end a run

A fatal failure is raised when enough dispatches fail in a row, or when a confirmation does not come in time. The first
one ends the run at once; later ones are only counted.

- `raises` lists the fatal failures that a trace stands for, in order;
- `Run.now_of_raised`: once one is raised, no time passes until the run has returned it;
- `Signal` ties the signal of the run to `raises`, and is kept by every move (`Signal.move`);
- **a fatal failure is never lost, and ends the run** (`fatal_ends_run`).
-/

namespace TxLoad.Dispatch

/-! ## What is raised -/

namespace Action

/-- The failures in a row after an action, if there were `n` before. -/
def streak (n : Nat) : Action → Nat
  | failed _ _ _ => n + 1
  | submitted _ _ => 0
  | _ => n

/-- The fatal failure that an action raises after `n` failures in a row. -/
def raise? (o : Options) (n : Nat) : Action → Option Failure
  | failed _ _ e => Run.stalled? o (n + 1) e
  | closed _ p .expired => some (p.timeout o.patience)
  | _ => none

/-- Whatever is raised is fatal. -/
theorem isFatal_of_raise? {o : Options} {n : Nat} {d : Action} {e : Failure} (h : d.raise? o n = some e) : e.isFatal := by
  unfold raise? at h
  split at h
  · unfold Run.stalled? at h
    split at h
    · cases h
      rfl
    · cases h
  · cases h
    rfl
  · cases h

end Action

/-- The failures in a row at the end of a trace that begins with `n` of them. -/
def streakFrom (n : Nat) (ds : List Action) : Nat := ds.foldl Action.streak n

/-- The fatal failures that are raised in a trace that begins with `n` failures in a row. -/
def raisesFrom (o : Options) : Nat → List Action → List Failure
  | _, [] => []
  | n, d :: ds => (d.raise? o n).toList ++ raisesFrom o (d.streak n) ds

/-- The fatal failures that are raised in a trace, in order. -/
def raises (o : Options) (ds : List Action) : List Failure := raisesFrom o 0 ds

/-- What is raised later is raised after what was raised before. -/
theorem raisesFrom_append (o : Options) (n : Nat) (ds ds' : List Action) :
    raisesFrom o n (ds ++ ds') = raisesFrom o n ds ++ raisesFrom o (streakFrom n ds) ds' := by
  induction ds generalizing n with
  | nil => rfl
  | cons d ds ih =>
    rw [List.cons_append, raisesFrom, raisesFrom, ih, List.append_assoc]
    rfl

theorem raises_concat (o : Options) (ds : List Action) (d : Action) :
    raises o (ds ++ [d]) = raises o ds ++ (d.raise? o (streakFrom 0 ds)).toList := by
  rw [raises, raisesFrom_append, raisesFrom, raisesFrom, List.append_nil]
  rfl

theorem raises_ne_nil {o : Options} {before : List Action} (later : List Action) (h : raises o before ≠ []) :
    raises o (before ++ later) ≠ [] := by
  rw [raises, raisesFrom_append]
  exact List.append_ne_nil_of_left_ne_nil h _

/-- Whatever is raised in a trace is fatal. -/
theorem isFatal_of_mem_raisesFrom {o : Options} {n : Nat} {ds : List Action} {e : Failure}
    (h : e ∈ raisesFrom o n ds) : e.isFatal := by
  induction ds generalizing n with
  | nil => cases h
  | cons d ds ih =>
    rcases List.mem_append.1 h with first | later
    · exact Action.isFatal_of_raise? (Option.mem_toList.1 first)
    · exact ih later

/-! ## Time stands still -/

namespace Run

variable {s : Setup} {r : Run}

theorem now_abandon (i : Nat) (rpc : Option String) (e : Failure) : (r.abandon s i rpc e).now = r.now := by
  rw [abandon_eq]

/-- Building a transaction takes no time. -/
theorem now_assemble (i endpoint worker : Nat) (quote : Fee.Quote) :
    (r.assemble s i endpoint worker quote).now = r.now := by
  unfold assemble
  split
  · exact now_abandon ..
  · dsimp only
    split
    · exact now_abandon ..
    · split
      · exact now_abandon ..
      · rfl

/-- The first step of a dispatch takes no time. -/
theorem now_begin (i : Nat) : (r.begin s i).now = r.now := by
  unfold begin
  split
  · split
    · exact now_abandon ..
    · dsimp only
      split
      · exact now_assemble ..
      · rfl
  · rfl

theorem now_quoted (i : Nat) (answer : Except Failure (Nat × Nat)) : (r.quoted s i answer).now = r.now := by
  unfold quoted
  split
  · cases answer with
    | error e => exact now_abandon ..
    | ok fees => exact now_assemble ..
  · rfl

theorem now_sent (i : Nat) (answer : Except Failure Unit) : (r.sent s i answer).now = r.now := by
  unfold sent
  split
  · cases answer with
    | error e => exact now_abandon ..
    | ok => rfl
  · rfl

theorem now_watch (i : Nat) : (r.watch s i).now = r.now := by
  unfold watch
  split
  · split <;> rfl
  · rfl

theorem now_answered (i : Nat) (answer : Except Failure Confirmation) : (r.answered s i answer).now = r.now := by
  unfold answered
  split
  · split <;> rfl
  · rfl

/-- A deadline takes no time once it has come. -/
theorem now_expired (i : Nat) : (r.expired s i).now = r.now := by
  unfold expired
  split
  · split
    · split <;> rfl
    · rfl
  · rfl

/-- A step of the loop takes no time. -/
theorem now_resume : (r.resume s).now = r.now := by
  unfold resume
  split
  · rfl
  · rfl
  · unfold advance
    split
    · split <;> rfl
    · split <;> rfl
    · split <;> rfl
    · split <;> rfl
    · split <;> rfl
    · rfl

/-- The clock stays, or it moves as far as nobody has anything to do. -/
theorem step_now (s : Setup) (r : Run) (e : Event) :
    (r.step s e).now = r.now ∨ ∃ time, e = .pass time ∧ r.canPass s time ∧ r.step s e = { r with now := time } := by
  cases e with
  | resume => exact .inl now_resume
  | begin i => exact .inl (now_begin i)
  | quoted i answer => exact .inl (now_quoted i answer)
  | sent i answer => exact .inl (now_sent i answer)
  | watch i => exact .inl (now_watch i)
  | answered i answer => exact .inl (now_answered i answer)
  | expired i => exact .inl (now_expired i)
  | refreshed checks => exact .inl rfl
  | pass time =>
    simp only [step]
    split
    · next can => exact .inr ⟨time, rfl, can, rfl⟩
    · exact .inl rfl

theorem canPass_iff {time : Nat} :
    r.canPass s time ↔ r.now ≤ time ∧ r.isBusy = false ∧ ∀ alarm ∈ r.alarms s, time ≤ alarm := by
  simp [canPass, and_assoc]

theorem now_le_step (s : Setup) (r : Run) (e : Event) : r.now ≤ (r.step s e).now := by
  rcases step_now s r e with now | ⟨time, -, can, passed⟩
  · exact Nat.le_of_eq now.symm
  · rw [passed]
    exact (canPass_iff.1 can).1

/-- The loop is ready as long as there is a fatal failure to return. -/
theorem mainReady_of_raised {e : Failure} (running : r.result? = none) (raised : r.context.fatal.first = some e) :
    r.mainReady := by
  unfold mainReady
  rw [raised]
  cases main : r.main with
  | returned => simp [result?, main] at running
  | _ => rfl

/-- As long as there is a fatal failure to return, no event takes time. -/
theorem now_step {e : Failure} (running : r.result? = none) (raised : r.context.fatal.first = some e)
    (event : Event) : (r.step s event).now = r.now := by
  cases event with
  | resume =>
    show (r.resume s).now = r.now
    rw [resume_of_raised running raised]
    rfl
  | begin i => exact now_begin i
  | quoted i answer => exact now_quoted i answer
  | sent i answer => exact now_sent i answer
  | watch i => exact now_watch i
  | answered i answer => exact now_answered i answer
  | expired i => exact now_expired i
  | refreshed checks => rfl
  | pass time =>
    have ready := mainReady_of_raised running raised
    simp [step, canPass, isBusy, ready]

theorem main_of_result? {result : Except Failure Summary} (returned : r.result? = some result) :
    r.main = .returned result := by
  unfold result? at returned
  split at returned
  · next main => rw [main, Option.some.inj returned]
  · cases returned

/-- A run that has returned stays so. -/
theorem result?_step {result : Except Failure Summary} (returned : r.result? = some result) (event : Event) :
    (r.step s event).result? = some result := by
  have main := main_of_result? returned
  have m := move_step s r event
  generalize r.action? s event = d at m
  generalize r.step s event = r' at m ⊢
  cases m with
  | enter _ enters =>
    rcases enters with ⟨main', -⟩ | ⟨main', -⟩ <;> rw [main] at main' <;> cases main'
  | queue _ main' | pace _ main' | join _ main' | conclude _ main' => rw [main] at main'; cases main'
  | abort _ running => rw [returned] at running; cases running
  | rest | quote | assemble | fail | submit | watch | breakOff | close => exact returned

/-- A run that has not returned in the end had not returned before. -/
theorem running_of_after {events : List Event} (running : (r.after s events).result? = none) : r.result? = none := by
  induction events generalizing r with
  | nil => exact running
  | cons event events ih =>
    have next : (r.step s event).result? = none := ih running
    cases here : r.result? with
    | none => rfl
    | some result =>
      rw [result?_step here event] at next
      cases next

end Run

/-! ## The signal -/

/-- **The signal of a run keeps what is raised**: the first failure until it is returned, and the number of all. Once
one is raised, no dispatch is admitted. -/
structure Signal (s : Setup) (r : Run) (ds : List Action) : Prop where
  streak : r.context.stats.streak = streakFrom 0 ds
  count : r.context.fatal.count = (raises s.options ds).length
  first : ∀ e, r.context.fatal.first = some e → (raises s.options ds).head? = some e
  taken : ∀ e, r.main = .returned (.error e) → (raises s.options ds).head? = some e
  silent : ∀ summary, r.main = .returned (.ok summary) → raises s.options ds = []
  shut : ∀ before later, ds = before ++ later → raises s.options before ≠ [] → ∀ d ∈ later, d.isAdmission = false

namespace Signal

variable {s : Setup} {r r' : Run} {ds : List Action}

/-- Nothing is raised yet. -/
theorem start (s : Setup) (pool : Pool) (registry : Registry) (now : Nat) :
    Signal s (Run.start s pool registry now) [] where
  streak := rfl
  count := rfl
  first _ h := by cases h
  taken _ h := by cases h
  silent _ _ := rfl
  shut before later split raised := by
    obtain ⟨rfl, -⟩ := List.append_eq_nil_iff.1 split.symm
    exact absurd rfl raised

theorem calm (h : Signal s r ds) (ending : Ending r) (running : ∀ e, r.main ≠ .returned (.error e))
    (calm : r.context.fatal.first = none) : raises s.options ds = [] := by
  rw [← List.length_eq_zero_iff, ← h.count]
  exact ending.calm running calm

/-- An action that is no admission, or finds nothing raised, comes after the others. -/
theorem shut_concat (h : Signal s r ds) {x : Action} (open_ : x.isAdmission → raises s.options ds = []) :
    ∀ before later, ds ++ [x] = before ++ later → raises s.options before ≠ [] → ∀ d ∈ later, d.isAdmission = false := by
  intro before later split raised d mem
  rcases List.eq_nil_or_concat later with rfl | ⟨later', y, rfl⟩
  · cases mem
  · rw [List.concat_eq_append, ← List.append_assoc] at split
    obtain ⟨rfl, last⟩ := List.append_inj' split rfl
    cases last
    rw [List.concat_eq_append, List.mem_append, List.mem_singleton] at mem
    rcases mem with old | rfl
    · exact h.shut before later' rfl raised d old
    · rw [← Bool.not_eq_true]
      intro admission
      exact raises_ne_nil later' raised (open_ admission)

/-- A move of the loop that does nothing and does not return keeps the signal. -/
theorem loop (h : Signal s r ds) (fatal : r'.context.fatal = r.context.fatal)
    (stats : r'.context.stats = r.context.stats) (main : ∀ result, r'.main = .returned result → r.main = .returned result) :
    Signal s r' (ds ++ (none : Option Action).toList) := by
  rw [Option.toList_none, List.append_nil]
  refine ⟨?_, ?_, ?_, fun e back => h.taken e (main _ back), fun summary back => h.silent summary (main _ back), h.shut⟩
  · rw [stats]; exact h.streak
  · rw [fatal]; exact h.count
  · rw [fatal]; exact h.first

/-- An action of a dispatch is counted if it raises a failure, and the failure is kept if it is the first. -/
theorem dispatch (h : Signal s r ds) {x : Action} (other : x.isAdmission = false) (main : r'.main = r.main)
    (going : ∀ summary, r.main ≠ .returned (.ok summary))
    (streak : r'.context.stats.streak = x.streak r.context.stats.streak)
    (fatal : r'.context.fatal = match x.raise? s.options r.context.stats.streak with
      | some e => r.context.fatal.raise e
      | none => r.context.fatal) : Signal s r' (ds ++ [x]) := by
  rw [h.streak] at streak fatal
  have told := raises_concat s.options ds x
  refine ⟨?streak, ?count, ?first, ?taken, ?silent, h.shut_concat (by simp [other])⟩
  case streak => rw [streak, streakFrom, streakFrom, List.foldl_append]; rfl
  case count =>
    rw [told, fatal, List.length_append, ← h.count]
    cases x.raise? s.options (streakFrom 0 ds) with
    | none => rfl
    | some e => exact Fatal.count_raise ..
  case first =>
    intro e kept
    rw [fatal] at kept
    rw [told, List.head?_append]
    cases raise : x.raise? s.options (streakFrom 0 ds) with
    | none =>
      rw [raise] at kept
      rw [h.first e kept]
      rfl
    | some e' =>
      rw [raise] at kept
      dsimp only [Fatal.raise] at kept
      split at kept
      · next none =>
        cases kept
        rw [List.length_eq_zero_iff.1 (h.count.symm.trans none)]
        rfl
      · rw [h.first e kept]
        rfl
  case taken =>
    intro e returned
    rw [main] at returned
    rw [told, List.head?_append, h.taken e returned]
    rfl
  case silent =>
    intro summary returned
    exact absurd (main ▸ returned) (going summary)

/-- **Every move keeps the signal.** -/
theorem move (h : Signal s r ds) (ending : Ending r) {d : Option Action} (m : Move s r d r') :
    Signal s r' (ds ++ d.toList) := by
  -- a run with a summary has no dispatch that could still move
  have going {i : Nat} {st : Stage} (here : r.jobs[i]? = some st)
      (live : st.standing = .dispatching ∨ st.standing = .tracking) (summary : Summary) :
      r.main ≠ .returned (.ok summary) := by
    intro ok
    have ended := ending.returned summary ok
    have standing : r.standing? i = some st.standing := by rw [Run.standing?, here]; rfl
    rcases live with live | live <;> rw [live] at standing <;> have pos := Run.tally_pos standing
    · exact Nat.ne_of_gt pos ended.idle
    · exact Nat.ne_of_gt pos ended.settled
  cases m with
  | rest | quote | watch | breakOff => exact h.loop rfl rfl fun _ => id
  | queue | join => exact h.loop rfl rfl (by simp)
  | pace => exact h.loop rfl rfl fun _ returned => absurd returned ((Ending.paced_ne s r).2 _)
  | @enter gate calm enters =>
    have running : ∀ result, r.main ≠ .returned result := by
      intro result main
      rcases enters with ⟨main', -⟩ | ⟨main', -⟩ <;> rw [main] at main' <;> cases main'
    have none := h.calm ending (fun e => running _) calm
    have told : raises s.options (ds ++ [.admitted r.context.counters.nextIndex]) = [] := by
      rw [raises_concat, none]
      rfl
    have stays := (Ending.beginDispatch_ne s r gate).2
    refine ⟨?_, ?_, ?_, fun e main => absurd main (stays _), fun summary main => absurd main (stays _), ?_⟩
    · rw [Option.toList_some, streakFrom, List.foldl_append]
      exact h.streak
    · rw [Option.toList_some, told, ← none]
      exact h.count
    · intro e first
      cases first.symm.trans calm
    · exact h.shut_concat fun _ => none
  | conclude calm main =>
    have none := h.calm ending (by simp [main]) calm
    rw [Option.toList_none, List.append_nil]
    exact ⟨h.streak, h.count, h.first, by simp, fun _ _ => none, h.shut⟩
  | @abort e raised running =>
    rw [Option.toList_none, List.append_nil]
    refine ⟨h.streak, h.count, by rintro _ ⟨⟩, ?_, by rintro _ ⟨⟩, h.shut⟩
    rintro _ ⟨⟩
    exact h.first e raised
  | @assemble i _ _ _ st _ _ _ _ _ _ here early =>
    exact h.dispatch rfl rfl (going here (.inl (Stage.standing_of_isUnassembled early))) rfl rfl
  | @fail i _ st _ _ e _ _ here spends =>
    refine h.dispatch rfl rfl (going here (.inl (Stage.standing_of_spends spends))) ?_ ?_
    · simp [Stats.fail, Action.streak]
    · exact r.context.fatal_abandon s.options e
  | submit here => exact h.dispatch rfl rfl (going here (.inl rfl)) rfl rfl
  | @close i p v _ here =>
    refine h.dispatch rfl rfl (going here (.inr rfl)) ?_ ?_
    · exact p.streak_count v s.options.patience r.context
    · cases v <;> exact Pending.fatal_count ..

theorem after (s : Setup) (pool : Pool) (registry : Registry) (now : Nat) (events : List Event) :
    Signal s ((Run.start s pool registry now).after s events) ((Run.start s pool registry now).trace s events) := by
  have both := Run.after_induction (P := fun r ds => Ending r ∧ Signal s r ds)
    ⟨Ending.start s pool registry now, start s pool registry now⟩
    (fun ⟨ending, signal⟩ m => ⟨ending.move m, signal.move ending m⟩) events
  exact both.2

/-- As long as a run has not returned, what was raised first is there to be returned. -/
theorem pending (h : Signal s r ds) (ending : Ending r) (raised : raises s.options ds ≠ []) (running : r.result? = none) :
    ∃ e, r.context.fatal.first = some e ∧ (raises s.options ds).head? = some e := by
  cases first : r.context.fatal.first with
  | some e => exact ⟨e, rfl, h.first e first⟩
  | none =>
    refine absurd (h.calm ending (fun e main => ?_) first) raised
    simp [Run.result?, main] at running

end Signal

/-- **From the first fatal failure on no time passes** until the run has returned. -/
theorem Run.now_of_raised (s : Setup) (pool : Pool) (registry : Registry) (now : Nat) (before later : List Event)
    (raised : raises s.options ((Run.start s pool registry now).trace s before) ≠ [])
    (running : ((Run.start s pool registry now).after s (before ++ later)).result? = none) :
    ((Run.start s pool registry now).after s (before ++ later)).now =
      ((Run.start s pool registry now).after s before).now := by
  induction later generalizing before with
  | nil => rw [List.append_nil]
  | cons event later ih =>
    have still : ((Run.start s pool registry now).after s before).result? = none := by
      rw [after_append] at running
      exact running_of_after running
    obtain ⟨e, first, -⟩ := (Signal.after s pool registry now before).pending
      (Ending.after s pool registry now before) raised still
    have raised' : raises s.options ((Run.start s pool registry now).trace s (before ++ [event])) ≠ [] := by
      rw [trace_append]
      exact raises_ne_nil _ raised
    rw [List.append_cons] at running ⊢
    rw [ih _ raised' running, after_append]
    exact now_step still first event

/-! ## The result -/

/-- **A fatal failure is never lost, and ends the run**, whatever the order of the events.

Whatever is raised is fatal, and counted. A run that has returned has returned a failure exactly if one was raised, and
then the first: later ones are only counted, and even one that the last dispatch raises does not end in a summary. Once
one was raised, no dispatch is admitted, and no time passes before the run has returned: the loop is ready, and its
next step returns the failure, whatever dispatches and watches still hang. -/
theorem fatal_ends_run (s : Setup) (pool : Pool) (registry : Registry) (now : Nat) (events : List Event) :
    let r := (Run.start s pool registry now).after s events
    let ds := (Run.start s pool registry now).trace s events
    (∀ e ∈ raises s.options ds, e.isFatal) ∧
      r.context.fatal.count = (raises s.options ds).length ∧
      (∀ result, r.result? = some result → ∀ e, result = .error e ↔ (raises s.options ds).head? = some e) ∧
      (∀ before later, ds = before ++ later → raises s.options before ≠ [] → ∀ d ∈ later, d.isAdmission = false) ∧
      (∀ before later, events = before ++ later →
        raises s.options ((Run.start s pool registry now).trace s before) ≠ [] → r.result? = none →
        r.now = ((Run.start s pool registry now).after s before).now ∧ r.mainReady ∧
          ∃ e, (raises s.options ds).head? = some e ∧
            (r.resume s).result? = some (.error e) ∧ (r.resume s).now = r.now) := by
  intro r ds
  have ending : Ending r := Ending.after s pool registry now events
  have signal : Signal s r ds := Signal.after s pool registry now events
  refine ⟨fun e => isFatal_of_mem_raisesFrom, signal.count, ?returns, signal.shut, ?time⟩
  case returns =>
    intro result returned e
    have main : r.main = .returned result := Run.main_of_result? returned
    cases result with
    | ok summary =>
      rw [signal.silent summary main]
      simp
    | error e' =>
      rw [signal.taken e' main]
      simp
  case time =>
    intro before later split raised running
    have all : ds = _ ++ _ := (congrArg _ split).trans (Run.trace_append s _ before later)
    have raised' : raises s.options ds ≠ [] := by
      rw [all]
      exact raises_ne_nil _ raised
    obtain ⟨e, first, head⟩ := signal.pending ending raised' running
    have aborted : r.resume s = r.abort e := Run.resume_of_raised running first
    refine ⟨?_, Run.mainReady_of_raised running first, e, head, ?_, ?_⟩
    · subst split
      exact Run.now_of_raised s pool registry now before later raised running
    · rw [aborted]
      rfl
    · rw [aborted]
      rfl

/-- The only dispatch of a run finds no good endpoint, and one failure is enough: where a summary was due, the loop
returns the failure. -/
example :
    let s : Setup := ⟨{ Options.standard with count := 1, maxFailures := 1 }, .transfer none 0 false, ⟨0, 0⟩, .direct, [],
      fun _ => ⟨0, 0, 0⟩⟩
    let registry : Registry := ⟨.ofKey ⟨1, by decide, by decide⟩ 1, #[.ofKey ⟨2, by decide, by decide⟩ 1], 0⟩
    let start := Run.start s ⟨1, [], 0⟩ registry 0
    (start.after s [.resume, .begin 0, .resume]).result? =
      some (.error (.dispatchStalled 1 "No healthy endpoints available (1 configured)")) := by
  rfl

end TxLoad.Dispatch
