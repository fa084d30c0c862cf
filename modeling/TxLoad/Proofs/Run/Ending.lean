import TxLoad.Proofs.Run.Standing

/-!
# How a run ends

The loop joins the dispatches, then the verdicts, and looks for a fatal failure once more before it returns.

- `Over` is what a summary stands for: no dispatch is under way, no verdict is outstanding, none came too late;
- `Ending` is what the loop knows on its way there, and is kept by every move (`Ending.move`);
- `Ending.ended`: a run that returns a summary is over.
-/

namespace TxLoad.Dispatch

/-! ## Fatal failures -/

namespace Fatal

variable (f : Fatal) (e : Failure)

@[simp] theorem count_raise : (f.raise e).count = f.count + 1 := by
  unfold raise
  split
  · next h => rw [h]
  · rfl

theorem first_raise (h : (f.raise e).first = Option.none) : f.count ≠ 0 ∧ f.first = Option.none := by
  unfold raise at h
  split at h
  · cases h
  · next earlier => exact ⟨earlier, h⟩

end Fatal

/-- What a move of a dispatch does to the fatal failures: it raises one, or none and nothing comes too late. -/
inductive Alarm (c c' : Context) : Prop
  | quiet (fatal : c'.fatal = c.fatal) (timeouts : c'.stats.timeouts = c.stats.timeouts)
  | raised (e : Failure) (fatal : c'.fatal = c.fatal.raise e)

namespace Alarm

theorem of_abandon (o : Options) (c : Context) (e : Failure) : Alarm c (c.abandon o e) := by
  have fatal := c.fatal_abandon o e
  split at fatal
  · next stalled _ => exact .raised stalled fatal
  · exact .quiet fatal (by simp [Stats.fail])

/-- A verdict that comes too late raises an alarm. -/
theorem of_count (p : Pending) (v : Verdict) (patience : Option Nat) (c : Context) :
    Alarm c (p.count v patience c) := by
  have fatal := p.fatal_count v patience c
  have stats := p.stats_count v patience c
  cases v with
  | settled r => exact .quiet fatal (by cases success : r.success <;> simp [stats, Stats.settle, Stats.pay, success])
  | lost e => exact .quiet fatal (by simp [stats, Stats.lose])
  | expired => exact .raised _ fatal

end Alarm

/-- A run in which nothing is under way any more returns its summary in two steps. -/
theorem Run.result?_of_idle {s : Setup} {r : Run} (main : r.main = .joining) (calm : r.context.fatal.first = none)
    (idle : r.anyDispatching = false) (settled : r.anyTracking = false) :
    ((r.resume s).resume s).result? = some (.ok (r.context.summary r.now)) := by
  have joined : r.resume s = { r.say r.sendingDoneLog with main := .confirming } := by
    rw [resume_of_calm (by simp [result?, main]) calm]
    simp [advance, main, idle]
  have concluded : (r.resume s).resume s = (r.resume s).conclude s := by
    rw [resume_of_calm (by rw [joined]; rfl) (by rw [joined]; exact calm), advance, joined]
    exact if_neg (ne_true_of_eq_false settled)
  rw [concluded, joined]
  rfl

/-! ## On the way to the end -/

/-- A run that has a summary to show has returned it. -/
theorem Run.result?_of_toOption {r : Run} {summary : Summary} (h : r.result?.bind Except.toOption = some summary) :
    r.result? = some (.ok summary) := by
  obtain ⟨result, returned, ok⟩ := Option.bind_eq_some_iff.1 h
  cases result with
  | error e => cases ok
  | ok summary => cases ok; exact returned

/-- What a summary stands for. -/
structure Over (r : Run) (summary : Summary) : Prop where
  idle : r.tally .dispatching = 0
  settled : r.tally .tracking = 0
  timely : r.context.stats.timeouts = 0
  told : ∃ now, summary = r.context.summary now

/-- What the loop knows on its way to the end. -/
structure Ending (r : Run) : Prop where
  raised : r.context.fatal.first = none → r.context.fatal.count = 0 ∨ ∃ e, r.main = .returned (.error e)
  timely : r.context.fatal.count = 0 → r.context.stats.timeouts = 0
  joined : r.main = .confirming → r.tally .dispatching = 0
  returned : ∀ summary, r.main = .returned (.ok summary) → Over r summary

namespace Ending

variable {s : Setup} {r r' : Run} {i : Nat}

theorem start (s : Setup) (pool : Pool) (registry : Registry) (now : Nat) :
    Ending (Run.start s pool registry now) where
  raised _ := .inl rfl
  timely _ := rfl
  joined h := by cases h
  returned _ h := by cases h

theorem ended (h : Ending r) {summary : Summary} (ok : r.result? = some (.ok summary)) : Over r summary := by
  unfold Run.result? at ok
  split at ok
  · next main =>
    cases ok
    exact h.returned _ main
  · cases ok

theorem calm (h : Ending r) (running : ∀ e, r.main ≠ .returned (.error e)) (calm : r.context.fatal.first = none) :
    r.context.fatal.count = 0 := by
  rcases h.raised calm with none | ⟨e, main⟩
  · exact none
  · exact absurd main (running e)

/-- A move of the loop that does not leave the admissions behind brings the end no nearer. -/
theorem loop (h : Ending r) (running : ∀ result, r.main ≠ .returned result) (confirming : r'.main ≠ .confirming)
    (returned : ∀ result, r'.main ≠ .returned result) (fatal : r'.context.fatal = r.context.fatal)
    (stats : r'.context.stats = r.context.stats) : Ending r' where
  raised calm := by
    rw [fatal] at calm ⊢
    exact .inl (h.calm (fun e => running _) calm)
  timely := by rw [fatal, stats]; exact h.timely
  joined main := absurd main confirming
  returned _ main := absurd main (returned _)

/-- A move of a live dispatch that does not start over brings the end no nearer. -/
theorem dispatch (h : Ending r) {a b : Stage} (here : r.jobs[i]? = some a)
    (live : a.standing = .dispatching ∨ a.standing = .tracking)
    (onward : b.standing = .dispatching → a.standing = .dispatching) (jobs : r'.jobs = r.jobs.setIfInBounds i b)
    (main : r'.main = r.main) (alarm : Alarm r.context r'.context) : Ending r' where
  raised calm := by
    rw [main]
    cases alarm with
    | quiet fatal _ => rw [fatal] at calm ⊢; exact h.raised calm
    | raised e fatal =>
      rw [fatal] at calm
      obtain ⟨earlier, calm⟩ := Fatal.first_raise _ _ calm
      exact .inr ((h.raised calm).resolve_left earlier)
  timely none := by
    cases alarm with
    | quiet fatal timeouts => rw [timeouts]; exact h.timely (fatal ▸ none)
    | raised e fatal => simp [fatal] at none
  joined confirming := by
    have idle := h.joined (main ▸ confirming)
    have moved := Run.tally_of_set here jobs rfl rfl .dispatching
    by_cases hb : b.standing = .dispatching
    · rw [if_pos hb, if_pos (onward hb)] at moved
      omega
    · rw [if_neg hb] at moved
      omega
  returned summary ok := by
    have ended := h.returned summary (main ▸ ok)
    have some : ∃ x, r.standing? i = some x ∧ (x = .dispatching ∨ x = .tracking) :=
      ⟨_, by rw [Run.standing?, here]; rfl, live⟩
    obtain ⟨x, standing, rfl | rfl⟩ := some
    · exact absurd ended.idle (Nat.ne_of_gt (Run.tally_pos standing))
    · exact absurd ended.settled (Nat.ne_of_gt (Run.tally_pos standing))

theorem paced_ne (s : Setup) (r : Run) : r.paced s ≠ .confirming ∧ ∀ result, r.paced s ≠ .returned result := by
  unfold Run.paced
  split <;> simp

theorem beginDispatch_ne (s : Setup) (r : Run) (gate : Gate) :
    (r.beginDispatch s gate).main ≠ .confirming ∧ ∀ result, (r.beginDispatch s gate).main ≠ .returned result := by
  rw [Run.main_beginDispatch]
  split
  · simp
  · exact paced_ne s _

/-- **Every move keeps what the loop knows.** -/
theorem move (h : Ending r) {d : Option Action} (m : Move s r d r') : Ending r' := by
  cases m with
  | rest =>
    refine ⟨h.raised, h.timely, h.joined, fun summary ok => ?_⟩
    obtain ⟨idle, settled, timely, told⟩ := h.returned summary ok
    exact ⟨idle, settled, timely, told⟩
  | enter calm enters =>
    have running : ∀ result, r.main ≠ .returned result := by
      intro result main
      rcases enters with ⟨main', -⟩ | ⟨main', -⟩ <;> rw [main] at main' <;> cases main'
    exact h.loop running (beginDispatch_ne s r _).1 (beginDispatch_ne s r _).2 rfl rfl
  | queue calm main => exact h.loop (by simp [main]) (by simp) (by simp) rfl rfl
  | pace calm main => exact h.loop (by simp [main]) (paced_ne s r).1 (paced_ne s r).2 rfl rfl
  | join calm main idle =>
    refine ⟨fun first => .inl (h.calm (by simp [main]) first), h.timely, fun _ => Run.tally_of_idle idle, ?_⟩
    intro summary ok
    cases ok
  | conclude calm main idle =>
    have none := h.calm (by simp [main]) calm
    refine ⟨fun _ => .inl none, h.timely, fun confirming => (by cases confirming), ?_⟩
    intro summary ok
    cases ok
    exact ⟨h.joined main, Run.tally_of_settled idle, h.timely none, ⟨r.now, rfl⟩⟩
  | abort raised running =>
    refine ⟨fun _ => .inr ⟨_, rfl⟩, h.timely, fun confirming => (by cases confirming), ?_⟩
    intro summary ok
    cases ok
  | quote here => exact h.dispatch here (.inl rfl) (fun _ => rfl) rfl rfl (.quiet rfl rfl)
  | assemble here early =>
    have live := Stage.standing_of_isUnassembled early
    exact h.dispatch here (.inl live) (fun _ => live) rfl rfl (.quiet rfl rfl)
  | fail here spends =>
    have live := Stage.standing_of_spends spends
    exact h.dispatch here (.inl live) (fun _ => live) rfl rfl (.of_abandon _ _ _)
  | submit here => exact h.dispatch here (.inl rfl) (fun _ => rfl) rfl rfl (.quiet rfl rfl)
  | @watch _ p here => exact h.dispatch (b := .watching p) here (.inr rfl) nofun rfl rfl (.quiet rfl rfl)
  | @breakOff _ p here => exact h.dispatch (b := .broken p) here (.inr rfl) nofun rfl rfl (.quiet rfl rfl)
  | @close _ p v _ here =>
    exact h.dispatch (b := .closed p v) here (.inr rfl) (absurd · v.standing_ne.1) rfl rfl (.of_count _ _ _ _)

theorem after (s : Setup) (pool : Pool) (registry : Registry) (now : Nat) (events : List Event) :
    Ending ((Run.start s pool registry now).after s events) :=
  Run.after_induction (P := fun r _ => Ending r) (start s pool registry now) (fun h m => h.move m) events

end Ending

end TxLoad.Dispatch
