import TxLoad.Simulation.Health
import TxLoad.Proofs.Funding.Played

/-!
# When the cycles of a loop begin

- `Course` is whatever a loop may do that waits, runs a cycle, and waits again until it is told to stop: at the end of
  a wait it is free to see the stop first, or the end of the wait, if both have come (`wake`);
- `OnSchedule` says when its cycles begin, in closed form (`due`), and when it returns; every course of punctual cycles
  is on schedule (`Course.onSchedule`), and what `Schedule.play` gives is such a course (`course_play`);
- health checks and top-ups are punctual (`punctual_round`, `punctual_resupplyCycle`);
- **every loop whose waits last a millisecond at least is on schedule, whatever its cycles do**
  (`cycles_on_schedule`).
-/

namespace TxLoad.Schedule

variable {σ : Type}

/-- Cycles begin when they are called and end no earlier. -/
structure Punctual (cycle : σ → Nat → Cycle × σ) : Prop where
  start : ∀ state time, (cycle state time).1.start = time
  finish : ∀ state time, time ≤ (cycle state time).1.finish

/-- When a loop goes on that began to wait at `time`: at the stop or at the end of the wait, but not before it began. -/
def wake (stop time delay : Nat) : Nat := max time (min stop (time + delay))

/-- What a loop may do that is told to stop at `stop`, from the wait of `delay` on that begins at `time`: the cycles
that it runs, the time at which it returns, and the state then. -/
inductive Course (s : Schedule) (stop : Nat) (cycle : σ → Nat → Cycle × σ) :
    Nat → Nat → σ → List Cycle → Nat → σ → Prop where
  | stopped {time delay : Nat} {state : σ} (told : stop ≤ wake stop time delay) :
      Course s stop cycle time delay state [] (wake stop time delay) state
  | cycled {time delay : Nat} {state : σ} {cs : List Cycle} {finish : Nat} {last : σ}
      (rung : time + delay ≤ wake stop time delay)
      (rest : Course s stop cycle (cycle state (wake stop time delay)).1.finish
        (s.wait (cycle state (wake stop time delay)).1.result) (cycle state (wake stop time delay)).2 cs finish last) :
      Course s stop cycle time delay state ((cycle state (wake stop time delay)).1 :: cs) finish last

/-- How long a cycle takes, with the wait behind it. -/
def round (s : Schedule) (c : Cycle) : Nat := c.finish - c.start + s.wait c.result

/-- When cycle `k` is due: after the first wait and all cycles before it, each with the wait behind it. -/
def due (s : Schedule) (time delay : Nat) (cs : List Cycle) (k : Nat) : Nat :=
  time + delay + ((cs.take k).map s.round).sum

/-- Cycles that begin when they are due, one after the other and not behind the stop, and a loop that goes on until the
stop and returns at once, or as soon as the cycle that is under way is over. -/
structure OnSchedule (s : Schedule) (stop time delay : Nat) (cs : List Cycle) (finish : Nat) : Prop where
  starts : ∀ k (h : k < cs.length), cs[k].start = s.due time delay cs k
  lasts : ∀ c ∈ cs, c.start ≤ c.finish
  apart : cs.Pairwise fun a b => a.finish < b.start
  timely : ∀ c ∈ cs, c.start ≤ stop
  onward : stop ≤ s.due time delay cs cs.length
  returns : finish = max stop ((cs.getLast?.map (·.finish)).getD time)

/-! ## Waits -/

theorem wait_pos {s : Schedule} (every : 0 < s.every) (retry : 0 < s.retry) (result : Except Failure Unit) :
    0 < s.wait result := by
  cases result with
  | ok _ => exact Wait.span_pos every
  | error _ => exact Wait.span_pos retry

theorem wake_of_told {stop time delay : Nat} (told : stop ≤ wake stop time delay) :
    wake stop time delay = max time stop ∧ stop ≤ time + delay := by
  unfold wake at *
  omega

theorem wake_of_rung {stop time delay : Nat} (lasting : 0 < delay) (rung : time + delay ≤ wake stop time delay) :
    wake stop time delay = time + delay ∧ time + delay ≤ stop := by
  unfold wake at *
  omega

/-! ## Courses are on schedule -/

theorem due_succ (s : Schedule) {time delay : Nat} {c : Cycle} (start : c.start = time + delay)
    (lasts : c.start ≤ c.finish) (cs : List Cycle) (k : Nat) :
    s.due time delay (c :: cs) (k + 1) = s.due c.finish (s.wait c.result) cs k := by
  simp only [due, round, List.take_succ_cons, List.map_cons, List.sum_cons]
  omega

/-- One cycle before a loop that is on schedule. -/
theorem OnSchedule.cons {s : Schedule} {stop time delay finish : Nat} {c : Cycle} {cs : List Cycle}
    (start : c.start = time + delay) (lasts : c.start ≤ c.finish) (timely : c.start ≤ stop)
    (lasting : 0 < s.wait c.result) (h : OnSchedule s stop c.finish (s.wait c.result) cs finish) :
    OnSchedule s stop time delay (c :: cs) finish where
  starts := by
    intro k inside
    cases k with
    | zero => simpa [due] using start
    | succ k =>
      rw [due_succ s start lasts]
      exact h.starts k (Nat.lt_of_succ_lt_succ inside)
  lasts := by
    intro d mem
    rcases List.mem_cons.1 mem with rfl | mem
    · exact lasts
    · exact h.lasts d mem
  apart := by
    apply List.pairwise_cons.2
    constructor
    · intro d mem
      obtain ⟨k, inside, rfl⟩ := List.mem_iff_getElem.1 mem
      rw [h.starts k inside, due]
      omega
    · exact h.apart
  timely := by
    intro d mem
    rcases List.mem_cons.1 mem with rfl | mem
    · exact timely
    · exact h.timely d mem
  onward := by
    rw [List.length_cons, due_succ s start lasts]
    exact h.onward
  returns := by
    rw [h.returns, List.getLast?_cons]
    cases cs.getLast? <;> rfl

section Courses

variable {s : Schedule} {stop : Nat} {cycle : σ → Nat → Cycle × σ}

/-- **Every course of punctual cycles is on schedule** if its waits last. -/
theorem Course.onSchedule (waits : ∀ result, 0 < s.wait result) (punctual : Punctual cycle) {time delay : Nat}
    (lasting : 0 < delay) {state last : σ} {cs : List Cycle} {finish : Nat}
    (h : Course s stop cycle time delay state cs finish last) : OnSchedule s stop time delay cs finish := by
  induction h with
  | stopped told =>
    obtain ⟨now, before⟩ := wake_of_told told
    constructor
    · intro k inside
      cases inside
    · simp
    · exact .nil
    · simp
    · simpa [due] using before
    · rw [now]
      exact Nat.max_comm _ _
  | @cycled time delay state cs finish last rung rest ih =>
    obtain ⟨now, before⟩ := wake_of_rung lasting rung
    have start := punctual.start state (wake stop time delay)
    have lasts := punctual.finish state (wake stop time delay)
    apply OnSchedule.cons
    · rw [start, now]
    · omega
    · omega
    · exact waits _
    · exact ih (waits _)

/-- Cycles that are run with enough fuel are a course. -/
theorem course_run (waits : ∀ result, 0 < s.wait result) (punctual : Punctual cycle) {fuel time delay : Nat}
    (enough : stop - time < fuel) (lasting : 0 < delay) (state : σ) :
    Course s stop cycle time delay state (s.run stop cycle fuel time delay state).1
      (s.run stop cycle fuel time delay state).2.1 (s.run stop cycle fuel time delay state).2.2 := by
  induction fuel generalizing time delay state with
  | zero => cases enough
  | succ fuel ih =>
    rw [run]
    by_cases before : stop ≤ time + delay
    · have told : stop ≤ wake stop time delay := by
        unfold wake
        omega
      rw [if_pos before, ← (wake_of_told told).1]
      exact .stopped told
    · have rung : wake stop time delay = time + delay := by
        unfold wake
        omega
      rw [if_neg before, ← rung]
      apply Course.cycled (Nat.le_of_eq rung.symm)
      apply ih _ (waits _)
      have lasts := punctual.finish state (wake stop time delay)
      omega

/-- **What is played is a course**, one in which the stop is seen first. -/
theorem course_play (waits : ∀ result, 0 < s.wait result) (punctual : Punctual cycle) (time stop : Nat) (state : σ) :
    Course s stop cycle time (s.wait (.ok ())) state (s.play cycle time stop state).1 (s.play cycle time stop state).2.1
      (s.play cycle time stop state).2.2 :=
  course_run waits punctual (Nat.lt_succ_self _) (waits _) state

end Courses

/-! ## The loops there are -/

theorem punctual_round (limit : Nat) : Punctual (Network.Net.round limit) where
  start _ _ := rfl
  finish _ _ := Nat.le_add_right _ _

/-- The clock of a funder is never put back. -/
theorem now_le_after (setup : Funding.Setup) (f : Funding.Funder) (events : List Funding.Event) :
    f.now ≤ (f.after setup events).now := by
  refine Funding.Funder.after_kept (P := fun g => f.now ≤ g.now) (fun {g e} _ le => ?_) (Nat.le_refl _)
  by_cases still : ∀ time, e ≠ .pass time
  · rw [Funding.Funder.now_step still]
    exact le
  · simp only [not_forall, not_not] at still
    obtain ⟨time, rfl⟩ := still
    exact Nat.le_trans le (Nat.le_max_left _ _)

/-- Top-ups are punctual. -/
theorem punctual_resupplyCycle (setup : Funding.Setup) : Punctual (Funding.Funder.resupplyCycle setup) where
  start _ _ := rfl
  finish := by
    rintro ⟨f, net⟩ time
    obtain ⟨before, after, events, topped⟩ :=
      Funding.Funder.topUp_reaches setup net { f.step setup (.pass time) with log := #[] }
    calc time
      _ ≤ (f.step setup (.pass time)).now := Nat.le_max_right _ _
      _ ≤ _ :=
        now_le_after setup (({ f.step setup (.pass time) with log := #[] } : Funding.Funder).sayAll before) events
      _ = _ := (congrArg Funding.Funder.now topped).symm

/-! ## Loops on schedule -/

/-- **A loop whose waits are asked to last a millisecond at least is on schedule**, whatever its cycles take and come
to, and whenever it is told to stop: the first cycle begins one wait after the loop, each other cycle begins one wait
after the end of the one before it, the wait being the usual one after a good cycle and the other one after a bad one;
no cycle begins behind the stop, and the loop returns at the stop, or as soon as the cycle under way is over. This is
so whether the stop or the end of a wait is seen first where both come at one moment; what is played is one of the two.
A wait lasts as long as was asked for in whole milliseconds, up to the longest wait. The checks of all endpoints and
the top-ups are such cycles. -/
theorem cycles_on_schedule {s : Schedule} {cycle : σ → Nat → Cycle × σ} (every : Wait.millisecond ≤ s.every)
    (retry : Wait.millisecond ≤ s.retry) (punctual : Punctual cycle) (time stop : Nat) (state : σ) :
    (∀ cs finish last, Course s stop cycle time (s.wait (.ok ())) state cs finish last →
        OnSchedule s stop time (s.wait (.ok ())) cs finish) ∧
      Course s stop cycle time (s.wait (.ok ())) state (s.play cycle time stop state).1
        (s.play cycle time stop state).2.1 (s.play cycle time stop state).2.2 ∧
      (∀ asked ≤ Wait.longest, s.every = asked * Wait.millisecond → s.wait (.ok ()) = asked) ∧
      (∀ asked ≤ Wait.longest, ∀ e, s.retry = asked * Wait.millisecond → s.wait (.error e) = asked) ∧
      (∀ limit, Punctual (Network.Net.round limit)) ∧
      ∀ setup, Punctual (Funding.Funder.resupplyCycle setup) := by
  have some : 0 < Wait.millisecond := by decide
  have waits := wait_pos (Nat.lt_of_lt_of_le some every) (Nat.lt_of_lt_of_le some retry)
  refine ⟨fun cs finish last course => ?_, course_play waits punctual time stop state, fun asked short whole => ?_,
    fun asked short e whole => ?_, punctual_round, punctual_resupplyCycle⟩
  · exact course.onSchedule waits punctual (waits _)
  · rw [wait, whole, Wait.span_whole, Wait.bounded_of_le short]
  · rw [wait, whole, Wait.span_whole, Wait.bounded_of_le short]

/-- Health checks that take a second, the first of which fails, until five minutes are over. -/
theorem cycles_on_schedule_failing :
    let cycle := fun (i time : Nat) =>
      ((⟨time, time + 1000, if i = 0 then .error .noAccounts else .ok (), []⟩ : Cycle), i + 1)
    let played := health.play cycle 0 300000 0
    Wait.millisecond ≤ health.every ∧ Wait.millisecond ≤ health.retry ∧ Punctual cycle ∧
      OnSchedule health 300000 0 (health.wait (.ok ())) played.1 played.2.1 ∧
      played.1.map (·.start) = [120000, 131000, 252000] := by
  intro cycle played
  have every : Wait.millisecond ≤ health.every := by decide
  have retry : Wait.millisecond ≤ health.retry := by decide
  have punctual : Punctual cycle := ⟨fun _ _ => rfl, fun _ _ => Nat.le_add_right _ _⟩
  obtain ⟨scheduled, course, -⟩ := cycles_on_schedule every retry punctual 0 300000 0
  exact ⟨every, retry, punctual, scheduled _ _ _ course, by decide⟩

/-- A loop that is asked to wait for 10^12 milliseconds does not: its first cycle begins after thirty years. -/
theorem cycle_before_due :
    let s : Schedule := ⟨1000000000000 * Wait.millisecond, 1000 * Wait.millisecond⟩
    let cycle := fun (i time : Nat) => ((⟨time, time, .ok (), []⟩ : Cycle), i + 1)
    Wait.millisecond ≤ s.every ∧ Wait.millisecond ≤ s.retry ∧ Punctual cycle ∧
      (s.play cycle 0 999999999999 0).1.map (·.start) = [946080000000] := by
  intro s cycle
  exact ⟨by decide, by decide, ⟨fun _ _ => rfl, fun _ _ => Nat.le_refl _⟩, by decide⟩

end TxLoad.Schedule
