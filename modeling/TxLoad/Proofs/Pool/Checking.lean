import TxLoad.Simulation.Health
import TxLoad.Proofs.Pool.Rotation
import Mathlib.Data.Finset.Max

/-!
# Health checks while they are under way

All endpoints are asked at once. Each check ends with its answer or with the wait for it, in any order and while endpoints
are picked from the pool; when the last has ended, the outcomes are put in the order of the endpoints, and the good ones
replace the old set.

- `EndpointCheck` is what is asked of one endpoint with the answer it would give; `EndpointCheck.cost` is how long its check takes;
- `HealthRefresh` is a health check of all endpoints, and `Checking` how far it has come; `Checking.step` is one step of it;
- `Underway` says that every check that has ended did so as `checkup` has it and at its time, and what became of the
  pool; it is kept by every step (`Underway.step`);
- a refresh can always be brought to its end (`Underway.exists_done`);
- **a health check is exact, and takes as long as the slowest endpoint** (`health_exact`).
-/

namespace TxLoad

namespace Pool

open Network (Answer Endpoint Net)

/-! ## One check -/

/-- What is asked of an endpoint, and what it answers. -/
structure EndpointCheck where
  name : String
  answer : Answer Unit

namespace EndpointCheck

variable (q : EndpointCheck) (limit : Nat)

/-- How the check ends. -/
def checkup : Checkup := Pool.checkup q.name limit q.answer

/-- How long the check takes: as long as the answer, but not longer than it is waited for. -/
def cost : Nat := if q.answer.result.isSome then min q.answer.delay (Wait.bounded limit) else Wait.bounded limit

/-- Whether the endpoint is found good. -/
def passes : Bool := (q.checkup limit).result.isOk

/-- A check takes as long as its answer or the wait for it. -/
theorem took_checkup : (q.checkup limit).took = q.cost limit := by
  unfold checkup Pool.checkup cost
  cases q.answer.result with
  | none => rfl
  | some result =>
    by_cases timely : q.answer.delay ≤ Wait.bounded limit
    · simp [timely]
    · simp [timely, Nat.le_of_not_le timely]

/-- **An endpoint is found good when it answers well, and in time.** -/
theorem passes_iff : q.passes limit = true ↔
    q.answer.result = some (.ok ()) ∧ q.answer.delay ≤ Wait.bounded limit := by
  unfold passes checkup Pool.checkup
  cases q.answer.result with
  | none => simp [Except.isOk, Except.toBool]
  | some result =>
    by_cases timely : q.answer.delay ≤ Wait.bounded limit <;> cases result <;> simp [timely, Except.isOk, Except.toBool]

theorem cost_le : q.cost limit ≤ Wait.bounded limit := by
  unfold cost
  split
  · exact Nat.min_le_right ..
  · exact Nat.le_refl _

theorem checkup_of_timely {result : Except Failure Unit} (answers : q.answer.result = some result)
    (timely : q.answer.delay ≤ Wait.bounded limit) : q.checkup limit = ⟨q.answer.delay, result⟩ := by
  simp [checkup, Pool.checkup, answers, timely]

/-- Without an answer in time the check ends with the wait for it. -/
theorem checkup_of_late (late : q.answer.result.isSome → Wait.bounded limit < q.answer.delay) :
    q.checkup limit = ⟨Wait.bounded limit, .error (checkTimeout q.name limit)⟩ := by
  unfold checkup Pool.checkup
  cases answers : q.answer.result with
  | none => rfl
  | some result =>
    have after := Nat.not_le.2 (late (by rw [answers]; rfl))
    simp [after]

end EndpointCheck

/-! ## All checks -/

/-- A health check of all endpoints that begins at the moment `since`. -/
structure HealthRefresh where
  asked : List EndpointCheck
  limit : Nat
  since : Nat

namespace HealthRefresh

variable (v : HealthRefresh)

/-- How the checks end, in the order of the endpoints. -/
def checks : List Checkup := v.asked.map (·.checkup v.limit)

/-- The names of the endpoints. -/
def names : List String := v.asked.map (·.name)

/-- The report on all endpoints. -/
def report : HealthReport := Pool.report v.names v.checks

/-- When the wait for the checks ends. -/
def cutoff : Nat := Wait.till v.since v.limit

/-- The moment at which the slowest check ends. -/
def finish : Nat := v.since + duration v.checks

@[simp] theorem length_checks : v.checks.length = v.asked.length := List.length_map ..

theorem getElem?_checks (i : Nat) : v.checks[i]? = v.asked[i]?.map (·.checkup v.limit) := List.getElem?_map ..

/-- **The checks take as long as the slowest of them.** -/
theorem duration_checks : duration v.checks = ((v.asked.map (·.cost v.limit)).max?).getD 0 := by
  have costs : v.checks.map (·.took) = v.asked.map (·.cost v.limit) := by
    rw [checks, List.map_map]
    exact List.map_congr_left fun q _ => q.took_checkup v.limit
  rw [duration, costs]
  cases v.asked.map (·.cost v.limit) with
  | nil => rfl
  | cons cost costs => rw [List.max?_cons', Option.getD_some, List.foldl_cons, Nat.zero_max]

theorem cost_le_duration {q : EndpointCheck} (asked : q ∈ v.asked) : q.cost v.limit ≤ duration v.checks := by
  rw [duration_checks]
  have mem : q.cost v.limit ∈ v.asked.map (·.cost v.limit) := List.mem_map_of_mem asked
  cases greatest : (v.asked.map (·.cost v.limit)).max? with
  | none => rw [List.max?_eq_none_iff.1 greatest] at mem; cases mem
  | some most => exact (List.max?_eq_some_iff.1 greatest).2 _ mem

theorem exists_slowest : duration v.checks = 0 ∨ ∃ q ∈ v.asked, q.cost v.limit = duration v.checks := by
  rw [duration_checks]
  cases greatest : (v.asked.map (·.cost v.limit)).max? with
  | none => exact .inl rfl
  | some most => exact .inr (List.mem_map.1 (List.max?_eq_some_iff.1 greatest).1)

/-- **The good endpoints are those that answer well, and in time.** -/
theorem mem_healthy (i : Nat) : i ∈ healthy v.checks ↔ ∃ q, v.asked[i]? = some q ∧ q.passes v.limit := by
  unfold healthy
  rw [List.mem_filter, List.mem_range, length_checks, getElem?_checks]
  cases there : v.asked[i]? with
  | none => simp
  | some q =>
    have inside : i < v.asked.length := (List.getElem?_eq_some_iff.1 there).1
    simp [inside, EndpointCheck.passes]

/-- **The report has the good and the bad endpoints**, each in configured order. -/
theorem report_eq : v.report =
    ⟨(v.asked.filter (·.passes v.limit)).map (·.name), (v.asked.filter (!·.passes v.limit)).map (·.name)⟩ := by
  have zipped : v.names.zip v.checks = v.asked.map fun q => (q.name, q.checkup v.limit) := by
    rw [names, checks, List.zip_map']
  unfold report Pool.report
  rw [zipped, List.partition_eq_filter_filter]
  simp only [List.filter_map, List.map_map]
  rfl

theorem report_perm : (v.report.good ++ v.report.bad).Perm v.names := by
  rw [report_eq, ← List.map_append]
  exact (List.filter_append_perm (·.passes v.limit) v.asked).map _

/-- The report is a failure exactly if no endpoint is good. -/
theorem verdict_report (total : Nat) : v.report.verdict total =
    if healthy v.checks = [] then .error (.noHealthyEndpoints total) else .ok v.report := by
  have none_iff : v.report.good.isEmpty = true ↔ healthy v.checks = [] := by
    rw [report_eq, List.isEmpty_iff, List.map_eq_nil_iff, List.filter_eq_nil_iff, List.eq_nil_iff_forall_not_mem]
    constructor
    · intro none i found
      obtain ⟨q, there, passes⟩ := (v.mem_healthy i).1 found
      exact none q (List.mem_of_getElem? there) passes
    · intro none q asked passes
      obtain ⟨i, there⟩ := List.getElem?_of_mem asked
      exact none i ((v.mem_healthy i).2 ⟨q, there, passes⟩)
  unfold HealthReport.verdict
  by_cases none : healthy v.checks = []
  · rw [if_pos (none_iff.2 none), if_pos none]
  · rw [if_neg (mt none_iff.1 none), if_neg none]

end HealthRefresh

/-! ## The checks under way -/

/-- How far a refresh has come: the pool by now, the checks that have ended at the positions of their endpoints, and when
and with what the whole has ended. -/
structure Checking where
  now : Nat
  pool : Pool
  ended : List (Option Checkup)
  done : Option (Nat × Except Failure HealthReport)

namespace Checking

/-- What can happen next: an answer comes, a check is cut off, an endpoint is picked, time passes, or the outcomes are
put together. -/
inductive Event where
  | answered (i : Nat)
  | cutOff (i : Nat)
  | pick (s : Selection) (key draw : Nat)
  | pass (time : Nat)
  | join

/-- The picks among what happens. -/
def Event.pick? (total : Nat) : Event → Option (Call total)
  | pick s key draw => some (.select s key draw)
  | _ => none

theorem Event.checks?_of_pick? {total : Nat} {e : Event} {call : Call total} (picked : e.pick? total = some call) :
    call.checks? = none := by
  cases e with
  | pick => cases picked; rfl
  | answered | cutOff | pass | join => cases picked

/-- Before the first step. -/
def start (v : HealthRefresh) (p : Pool) : Checking := ⟨v.since, p, v.asked.map fun _ => none, none⟩

/-- The check at a position, while it has not ended. -/
def open? (v : HealthRefresh) (c : Checking) (i : Nat) : Option EndpointCheck :=
  match c.ended[i]? with
  | some none => v.asked[i]?
  | _ => none

/-- A check ends now. -/
def close (v : HealthRefresh) (c : Checking) (i : Nat) (result : Except Failure Unit) : Checking :=
  { c with ended := c.ended.set i (some ⟨c.now - v.since, result⟩) }

/-- An answer is there when its time has come. -/
def isHere (v : HealthRefresh) (c : Checking) (q : EndpointCheck) : Bool :=
  q.answer.result.isSome && v.since + q.answer.delay ≤ c.now

/-- Whether all checks have ended. -/
def isOver (c : Checking) : Bool := c.ended.all Option.isSome

/-- Time passes up to the next moment at which a check ends, and not before the outcomes of all are put together. -/
def canPass (v : HealthRefresh) (c : Checking) (time : Nat) : Bool :=
  c.now ≤ time && (c.done.isSome || !c.isOver) &&
    (List.range v.asked.length).all fun i => (c.open? v i).all fun q => time ≤ v.since + q.cost v.limit

/-- The outcomes are put together: the good endpoints replace the old set, and the report is the result. -/
def join (v : HealthRefresh) (c : Checking) : Checking :=
  let checks := c.ended.filterMap id
  { c with
    pool := c.pool.refresh checks
    done := some (c.now, (Pool.report v.names checks).verdict c.pool.total) }

/-- The checks after an event; an event that cannot happen now changes nothing. When an answer comes at the very moment
at which its check would be cut off, it counts. -/
def step (v : HealthRefresh) (c : Checking) : Event → Checking
  | .answered i =>
    match c.open? v i with
    | some q =>
      match q.answer.result with
      | some result => if c.now = v.since + q.answer.delay then c.close v i result else c
      | none => c
    | none => c
  | .cutOff i =>
    match c.open? v i with
    | some q =>
      if v.cutoff ≤ c.now && !c.isHere v q then c.close v i (.error (checkTimeout q.name v.limit)) else c
    | none => c
  | .pick s key draw => { c with pool := (c.pool.select s key draw).2 }
  | .pass time => if c.canPass v time then { c with now := time } else c
  | .join => if c.done.isNone && c.isOver then c.join v else c

/-- The checks after some events. -/
def after (v : HealthRefresh) (c : Checking) (events : List Event) : Checking := events.foldl (step v) c

theorem after_append (v : HealthRefresh) (c : Checking) (events events' : List Event) :
    c.after v (events ++ events') = (c.after v events).after v events' :=
  List.foldl_append ..

end Checking

/-- No call changes the configured endpoints. -/
theorem total_after {total : Nat} (p : Pool) (calls : List (Call total)) : (p.after calls).total = p.total := by
  induction calls generalizing p with
  | nil => rfl
  | cons call calls ih =>
    refine (ih (p.step call)).trans ?_
    cases call with
    | select s key draw => exact (same_endpoints s key draw).1
    | refresh checks => rfl

/-- Picks change no endpoints. -/
theorem good_after {total : Nat} (p : Pool) {calls : List (Call total)}
    (picks : ∀ call ∈ calls, call.checks? = none) : (p.after calls).good = p.good := by
  induction calls generalizing p with
  | nil => rfl
  | cons call calls ih =>
    refine (ih (p.step call) fun call mem => picks call (List.mem_cons_of_mem _ mem)).trans ?_
    cases call with
    | select s key draw => exact (same_endpoints s key draw).2
    | refresh checks => cases picks _ List.mem_cons_self

/-- **What the history of the pool is so far**: only picks, until the outcomes are put together at the end of the
slowest check; then these checks among the picks, once. -/
inductive Told (v : HealthRefresh) (p : Pool) (picks : List (Call v.asked.length)) (c : Checking) : Prop
  | going (pending : c.done = none) (pool : c.pool = p.after picks) (within : c.now ≤ v.finish)
  | complete (before later : List (Call v.asked.length)) (split : picks = before ++ later)
      (finished : c.done = some (v.finish, v.report.verdict p.total))
      (pool : c.pool = p.after (before ++ .refresh ⟨v.checks.toArray, by simp⟩ :: later))

/-- **Every check that has ended did so as it should and not too early**, and none goes on for too long. -/
structure Underway (v : HealthRefresh) (p : Pool) (picks : List (Call v.asked.length)) (c : Checking) : Prop where
  length : c.ended.length = v.asked.length
  begun : v.since ≤ c.now
  each : ∀ (i : Nat) (q : EndpointCheck), v.asked[i]? = some q →
    c.ended[i]? = some none ∧ c.now ≤ v.since + q.cost v.limit ∨
      c.ended[i]? = some (some (q.checkup v.limit)) ∧ v.since + q.cost v.limit ≤ c.now
  told : Told v p picks c

namespace Underway

variable {v : HealthRefresh} {p : Pool} {picks : List (Call v.asked.length)} {c : Checking}

/-- At the start every check goes on. -/
theorem start (v : HealthRefresh) (p : Pool) : Underway v p [] (.start v p) where
  length := List.length_map ..
  begun := Nat.le_refl _
  each i q there := by
    refine .inl ⟨?_, Nat.le_add_right ..⟩
    show (v.asked.map fun _ => none)[i]? = _
    rw [List.getElem?_map, there]
    rfl
  told := .going rfl rfl (Nat.le_add_right ..)

/-- An open check is one that goes on. -/
theorem open_iff {i : Nat} {q : EndpointCheck} :
    c.open? v i = some q ↔ v.asked[i]? = some q ∧ c.ended[i]? = some none := by
  unfold Checking.open?
  split
  · next here => simp [here]
  · next other => 
    constructor
    · nofun
    · rintro ⟨-, here⟩
      exact absurd here other

/-- When all checks have ended, their outcomes are the ones of the refresh, and the slowest has ended by now. -/
theorem of_isOver (h : Underway v p picks c) (complete : c.isOver = true) :
    c.ended.filterMap id = v.checks ∧ v.finish ≤ c.now := by
  have ended {i : Nat} {q : EndpointCheck} (there : v.asked[i]? = some q) :
      c.ended[i]? = some (some (q.checkup v.limit)) ∧ v.since + q.cost v.limit ≤ c.now := by
    rcases h.each i q there with ⟨goes_on, -⟩ | ended
    · have all := List.all_eq_true.1 complete _ (List.mem_of_getElem? goes_on)
      cases all
    · exact ended
  have outcomes : c.ended = v.checks.map some := by
    refine List.ext_getElem? fun i => ?_
    rw [List.getElem?_map, v.getElem?_checks]
    cases there : v.asked[i]? with
    | none =>
      rw [List.getElem?_eq_none_iff, ← h.length, ← List.getElem?_eq_none_iff] at there
      rw [there]
      rfl
    | some q => rw [(ended there).1]; rfl
  constructor
  · rw [outcomes, List.filterMap_map]
    exact List.filterMap_some ..
  · unfold HealthRefresh.finish
    rcases v.exists_slowest with zero | ⟨q, asked, slowest⟩
    · rw [zero]
      exact h.begun
    · obtain ⟨i, there⟩ := List.getElem?_of_mem asked
      rw [← slowest]
      exact (ended there).2

/-- As long as not all checks have ended, one goes on. -/
theorem exists_unended (h : Underway v p picks c) (going : c.isOver = false) :
    ∃ (i : Nat) (q : EndpointCheck), v.asked[i]? = some q ∧ c.ended[i]? = some none := by
  obtain ⟨x, mem, unended⟩ := List.all_eq_false.1 going
  obtain ⟨i, there⟩ := List.getElem?_of_mem mem
  have inside : i < v.asked.length := h.length ▸ (List.getElem?_eq_some_iff.1 there).1
  cases x with
  | none => exact ⟨i, v.asked[i], List.getElem?_eq_getElem inside, there⟩
  | some => exact absurd rfl unended

/-- A check that ends at its time, and as it should, keeps everything else as it is. -/
theorem close (h : Underway v p picks c) {i : Nat} {q : EndpointCheck} {result : Except Failure Unit}
    (goes_on : c.open? v i = some q) (moment : c.now = v.since + q.cost v.limit)
    (ends : q.checkup v.limit = ⟨q.cost v.limit, result⟩) : Underway v p picks (c.close v i result) where
  length := (List.length_set ..).trans h.length
  begun := h.begun
  each j r there := by
    obtain ⟨mine, unended⟩ := open_iff.1 goes_on
    show (c.ended.set i _)[j]? = _ ∧ _ ∨ (c.ended.set i _)[j]? = _ ∧ _
    by_cases same : i = j
    · subst same
      cases mine.symm.trans there
      refine .inr ⟨?_, Nat.le_of_eq moment.symm⟩
      have inside : i < c.ended.length := (List.getElem?_eq_some_iff.1 unended).1
      rw [List.getElem?_set_self inside, ends, moment, Nat.add_sub_cancel_left]
    · rw [List.getElem?_set_ne same]
      exact h.each j r there
  told := by
    cases h.told with
    | going pending pool within => exact .going pending pool within
    | complete before later split finished pool => exact .complete before later split finished pool

/-- While a check goes on, its time has not passed. -/
theorem within (h : Underway v p picks c) {i : Nat} {q : EndpointCheck} (goes_on : c.open? v i = some q) :
    c.now ≤ v.since + q.cost v.limit := by
  obtain ⟨there, unended⟩ := open_iff.1 goes_on
  rcases h.each i q there with ⟨-, within⟩ | ⟨ended, -⟩
  · exact within
  · cases unended.symm.trans ended

/-- An answer that comes while its check goes on comes in time. -/
theorem answered (h : Underway v p picks c) {i : Nat} {q : EndpointCheck} {result : Except Failure Unit}
    (goes_on : c.open? v i = some q) (answers : q.answer.result = some result)
    (moment : c.now = v.since + q.answer.delay) : Underway v p picks (c.close v i result) := by
  have within := h.within goes_on
  have timely : q.answer.delay ≤ Wait.bounded v.limit := by
    have := q.cost_le v.limit
    omega
  have cost : q.cost v.limit = q.answer.delay := by simp [EndpointCheck.cost, answers, timely]
  refine h.close goes_on (by rw [cost, moment]) ?_
  rw [cost]
  exact q.checkup_of_timely v.limit answers timely

/-- A check is cut off when its answer has not come by the end of the wait for it. -/
theorem cutOff (h : Underway v p picks c) {i : Nat} {q : EndpointCheck} (goes_on : c.open? v i = some q)
    (due : v.cutoff ≤ c.now) (missing : c.isHere v q = false) :
    Underway v p picks (c.close v i (.error (checkTimeout q.name v.limit))) := by
  have within := h.within goes_on
  have cost_le := q.cost_le v.limit
  unfold HealthRefresh.cutoff Wait.till at due
  have late (answers : q.answer.result.isSome) : Wait.bounded v.limit < q.answer.delay := by
    have later : ¬ v.since + q.answer.delay ≤ c.now := by simpa [Checking.isHere, answers] using missing
    omega
  have cost : q.cost v.limit = Wait.bounded v.limit := by omega
  refine h.close goes_on (by omega) ?_
  rw [cost]
  exact q.checkup_of_late v.limit late

/-- **The outcomes are put together at the end of the slowest check**, and not later. -/
theorem join (h : Underway v p picks c) (pending : c.done = none) (complete : c.isOver = true) :
    Underway v p picks (c.join v) where
  length := h.length
  begun := h.begun
  each := h.each
  told := by
    obtain ⟨outcomes, finish_le⟩ := h.of_isOver complete
    cases h.told with
    | going _ pool within =>
      have moment : c.now = v.finish := Nat.le_antisymm within finish_le
      have total : c.pool.total = p.total := by rw [pool, total_after]
      refine .complete picks [] (List.append_nil _).symm ?_ ?_
      · show some (c.now, (Pool.report v.names (c.ended.filterMap id)).verdict c.pool.total) = _
        rw [moment, outcomes, total]
        rfl
      · show c.pool.refresh (c.ended.filterMap id) = _
        rw [outcomes, after_append, ← pool]
        rfl
    | complete before later split finished => cases pending.symm.trans finished

/-- Time passes no further than the end of the next check. -/
theorem pass (h : Underway v p picks c) {time : Nat} (can : c.canPass v time) :
    Underway v p picks { c with now := time } := by
  simp only [Checking.canPass, Bool.and_eq_true, decide_eq_true_eq, Bool.or_eq_true, Bool.not_eq_true'] at can
  obtain ⟨⟨later, unfinished⟩, alarms⟩ := can
  have alarm {i : Nat} {q : EndpointCheck} (there : v.asked[i]? = some q) (unended : c.ended[i]? = some none) :
      time ≤ v.since + q.cost v.limit := by
    have inside : i < v.asked.length := (List.getElem?_eq_some_iff.1 there).1
    have bound := List.all_eq_true.1 alarms i (List.mem_range.2 inside)
    simpa [open_iff.2 ⟨there, unended⟩] using bound
  refine ⟨h.length, Nat.le_trans h.begun later, fun i q there => ?_, ?_⟩
  · rcases h.each i q there with ⟨unended, -⟩ | ⟨ended, past⟩
    · exact .inl ⟨unended, alarm there unended⟩
    · exact .inr ⟨ended, Nat.le_trans past later⟩
  · cases h.told with
    | going pending pool within =>
      refine .going pending pool ?_
      obtain ⟨i, q, there, unended⟩ := h.exists_unended (by simpa [pending] using unfinished)
      have last := v.cost_le_duration (List.mem_of_getElem? there)
      have next := alarm there unended
      show time ≤ v.since + duration v.checks
      omega
    | complete before later split finished pool => exact .complete before later split finished pool

/-- A pick is one more in the history. -/
theorem pick (h : Underway v p picks c) (s : Selection) (key draw : Nat) :
    Underway v p (picks ++ [.select s key draw]) { c with pool := (c.pool.select s key draw).2 } where
  length := h.length
  begun := h.begun
  each := h.each
  told := by
    have onward {calls : List (Call v.asked.length)} (pool : c.pool = p.after calls) :
        (c.pool.select s key draw).2 = p.after (calls ++ [.select s key draw]) := by
      rw [after_append, ← pool]
      rfl
    cases h.told with
    | going pending pool within => exact .going pending (onward pool) within
    | complete before later split finished pool =>
      refine .complete before (later ++ [.select s key draw]) (by rw [split, List.append_assoc]) finished ?_
      have pool' := onward pool
      rwa [List.append_assoc, List.cons_append] at pool'

/-- **Every step keeps to it.** -/
theorem step (h : Underway v p picks c) (e : Checking.Event) :
    Underway v p (picks ++ (e.pick? v.asked.length).toList) (c.step v e) := by
  have silent {c' : Checking} (kept : Underway v p picks c') :
      Underway v p (picks ++ (none : Option (Call v.asked.length)).toList) c' := by simpa using kept
  cases e with
  | pick s key draw => exact h.pick s key draw
  | answered i =>
    refine silent ?_
    rw [Checking.step]
    split
    · next goes_on =>
      split
      · next answers =>
        split
        · next moment => exact h.answered goes_on answers moment
        · exact h
      · exact h
    · exact h
  | cutOff i =>
    refine silent ?_
    rw [Checking.step]
    split
    · next goes_on =>
      split
      · next due =>
        obtain ⟨due, missing⟩ : v.cutoff ≤ c.now ∧ c.isHere v _ = false := by simpa using due
        exact h.cutOff goes_on due missing
      · exact h
    · exact h
  | pass time =>
    refine silent ?_
    rw [Checking.step]
    split
    · next can => exact h.pass can
    · exact h
  | join =>
    refine silent ?_
    rw [Checking.step]
    split
    · next ready =>
      obtain ⟨pending, complete⟩ : c.done = none ∧ c.isOver = true := by simpa using ready
      exact h.join pending complete
    · exact h

/-- What every step keeps to, every sequence of events keeps to. -/
theorem after (h : Underway v p picks c) (events : List Checking.Event) :
    Underway v p (picks ++ events.filterMap (Checking.Event.pick? v.asked.length)) (c.after v events) := by
  induction events generalizing picks c with
  | nil => rwa [List.filterMap_nil, List.append_nil]
  | cons e events ih =>
    have next : Underway v p _ (c.after v (e :: events)) := ih (h.step e)
    rw [List.append_assoc] at next
    cases picked : e.pick? v.asked.length with
    | none => simpa [picked] using next
    | some call => simpa [picked] using next

/-! ## The end is reached -/

/-- At its time a check can end. -/
theorem exists_closing {i : Nat} {q : EndpointCheck} (goes_on : c.open? v i = some q)
    (moment : c.now = v.since + q.cost v.limit) :
    ∃ e result, e.pick? v.asked.length = none ∧ c.step v e = c.close v i result := by
  by_cases timely : q.answer.result.isSome ∧ q.answer.delay ≤ Wait.bounded v.limit
  · obtain ⟨answers, timely⟩ := timely
    obtain ⟨result, answers⟩ := Option.isSome_iff_exists.1 answers
    have cost : q.cost v.limit = q.answer.delay := by simp [EndpointCheck.cost, answers, timely]
    exact ⟨.answered i, result, rfl, by simp [Checking.step, goes_on, answers, moment, cost]⟩
  · have cost : q.cost v.limit = Wait.bounded v.limit := by
      unfold EndpointCheck.cost
      split
      · next answers => exact Nat.min_eq_right (Nat.le_of_lt (Nat.lt_of_not_le fun le => timely ⟨answers, le⟩))
      · rfl
    have missing : c.isHere v q = false := by
      rw [Checking.isHere, moment, cost]
      cases answers : q.answer.result.isSome with
      | false => rfl
      | true =>
        have late : ¬ q.answer.delay ≤ Wait.bounded v.limit := fun le => timely ⟨answers, le⟩
        simp [late]
    exact ⟨.cutOff i, .error (checkTimeout q.name v.limit), rfl,
      by simp [Checking.step, goes_on, moment, cost, missing, HealthRefresh.cutoff, Wait.till]⟩

/-- A check that ends is one less that goes on. -/
theorem countP_close {i : Nat} {q : EndpointCheck} (goes_on : c.open? v i = some q) (result : Except Failure Unit) :
    (c.close v i result).ended.countP Option.isNone < c.ended.countP Option.isNone := by
  obtain ⟨-, unended⟩ := open_iff.1 goes_on
  obtain ⟨inside, here⟩ := List.getElem?_eq_some_iff.1 unended
  have pos : 0 < c.ended.countP Option.isNone :=
    List.countP_pos_iff.2 ⟨none, List.mem_of_getElem? unended, rfl⟩
  show (c.ended.set i _).countP _ < _
  rw [List.countP_set inside, here]
  simp only [Option.isNone_none, Option.isNone_some, if_true, Bool.false_eq_true, if_false]
  omega

/-- As long as not all checks have ended, one of those that go on ends first. -/
theorem exists_next (h : Underway v p picks c) (going : c.isOver = false) :
    ∃ (i : Nat) (q : EndpointCheck), c.open? v i = some q ∧
      ∀ (j : Nat) (r : EndpointCheck), c.open? v j = some r → q.cost v.limit ≤ r.cost v.limit := by
  obtain ⟨i, q, there, unended⟩ := h.exists_unended going
  let open_ends := (Finset.range v.asked.length).filter fun j => (c.open? v j).isSome
  have mem {j : Nat} {r : EndpointCheck} (goes_on : c.open? v j = some r) : j ∈ open_ends := by
    have inside : j < v.asked.length := (List.getElem?_eq_some_iff.1 (open_iff.1 goes_on).1).1
    simp [open_ends, inside, goes_on]
  obtain ⟨k, first, least⟩ := Finset.exists_min_image open_ends
    (fun j => (c.open? v j).elim 0 fun r => r.cost v.limit) ⟨i, mem (open_iff.2 ⟨there, unended⟩)⟩
  obtain ⟨r, goes_on⟩ := Option.isSome_iff_exists.1 (Finset.mem_filter.1 first).2
  refine ⟨k, r, goes_on, fun j r' other => ?_⟩
  simpa [goes_on, other] using least j (mem other)

theorem after_silent (h : Underway v p picks c) {events : List Checking.Event}
    (silent : events.filterMap (Checking.Event.pick? v.asked.length) = []) : Underway v p picks (c.after v events) := by
  have kept := h.after events
  rwa [silent, List.append_nil] at kept

/-- As long as not all checks have ended, time passes to the end of the next one, and it ends. -/
theorem exists_fewer (h : Underway v p picks c) (going : c.isOver = false) :
    ∃ events, events.filterMap (Checking.Event.pick? v.asked.length) = [] ∧
      (c.after v events).ended.countP Option.isNone < c.ended.countP Option.isNone := by
  obtain ⟨i, q, goes_on, next⟩ := h.exists_next going
  have can : c.canPass v (v.since + q.cost v.limit) := by
    simp only [Checking.canPass, Bool.and_eq_true, decide_eq_true_eq, Bool.or_eq_true, Bool.not_eq_true']
    refine ⟨⟨h.within goes_on, .inr going⟩, List.all_eq_true.2 fun j _ => ?_⟩
    cases other : c.open? v j with
    | none => rfl
    | some r => simpa using next j r other
  obtain ⟨e, result, silent, closes⟩ := exists_closing (c := { c with now := v.since + q.cost v.limit }) goes_on rfl
  refine ⟨[.pass (v.since + q.cost v.limit), e], ?_, ?_⟩
  · rw [List.filterMap_cons_none rfl, List.filterMap_cons_none silent, List.filterMap_nil]
  · have moved : c.after v [.pass (v.since + q.cost v.limit), e] =
        Checking.close v { c with now := v.since + q.cost v.limit } i result := by
      rw [← closes]
      simp [Checking.after, Checking.step, can]
    rw [moved]
    exact countP_close (c := { c with now := v.since + q.cost v.limit }) goes_on result

/-- **A refresh can always be brought to its end.** -/
theorem exists_done (h : Underway v p picks c) :
    ∃ events, events.filterMap (Checking.Event.pick? v.asked.length) = [] ∧ (c.after v events).done.isSome := by
  generalize left : c.ended.countP Option.isNone = n
  induction n using Nat.strongRecOn generalizing c with
  | _ n ih =>
    cases pending : c.done with
    | some result => exact ⟨[], rfl, by simp [Checking.after, pending]⟩
    | none =>
      cases complete : c.isOver with
      | true => exact ⟨[.join], rfl, by simp [Checking.after, Checking.step, Checking.join, pending, complete]⟩
      | false =>
        obtain ⟨events, silent, fewer⟩ := h.exists_fewer complete
        obtain ⟨events', silent', done⟩ := ih _ (left ▸ fewer) (h.after_silent silent) rfl
        refine ⟨events ++ events', ?_, ?_⟩
        · rw [List.filterMap_append, silent, silent', List.append_nil]
        · rw [Checking.after_append]
          exact done

end Underway

end Pool

/-! ## The checks of a simulation -/

namespace Network.Net

open Pool (EndpointCheck HealthRefresh)

/-- What a network's endpoints are asked, and what they answer next. -/
def endpointChecks (n : Net) : List EndpointCheck := n.endpoints.toList.map fun e => ⟨e.name, e.check.1⟩

/-- An endpoint that is asked gives its own answer. -/
theorem ask_check (n : Net) (i : Nat) :
    (n.ask i Endpoint.check).1 = (n.endpoints[i]?.map fun e => e.check.1).getD ⟨0, none⟩ := by
  unfold ask
  split
  · next here => rw [here]; rfl
  · next missing => rw [missing]; rfl

/-- An endpoint that is asked leaves the others as they are. -/
theorem endpoints_ask_check (n : Net) {i j : Nat} (other : i ≠ j) :
    (n.ask i Endpoint.check).2.endpoints[j]? = n.endpoints[j]? := by
  unfold ask
  split
  · exact Array.getElem?_setIfInBounds_ne other
  · rfl

/-- A check leaves the names of the endpoints as they are. -/
theorem name_ask_check (n : Net) (i j : Nat) : (n.ask i Endpoint.check).2.name j = n.name j := by
  by_cases same : i = j
  · subst same
    unfold ask
    split
    · next e here =>
      have inside : i < n.endpoints.size := (Array.getElem?_eq_some_iff.1 here).1
      show ((n.endpoints.setIfInBounds i _)[i]?.map _).getD "" = (n.endpoints[i]?.map _).getD ""
      rw [Array.getElem?_setIfInBounds_self_of_lt inside, here]
      rfl
    · rfl
  · rw [name, endpoints_ask_check n same, name]

/-- Every endpoint is asked once, in order. -/
theorem askAll_eq (n : Net) (i count : Nat) :
    (n.askAll i count).1 = (List.range' i count).map (fun j => (n.ask j Endpoint.check).1) ∧
      ∀ j, (n.askAll i count).2.name j = n.name j := by
  induction count generalizing n i with
  | zero => exact ⟨rfl, fun _ => rfl⟩
  | succ count ih =>
    obtain ⟨answers, names⟩ := ih (n.ask i Endpoint.check).2 (i + 1)
    constructor
    · show (n.ask i Endpoint.check).1 :: ((n.ask i Endpoint.check).2.askAll (i + 1) count).1 = _
      rw [answers, List.range'_succ, List.map_cons]
      refine congrArg _ (List.map_congr_left fun j later => ?_)
      have other : i ≠ j := by
        have := List.mem_range'_1.1 later
        omega
      rw [ask_check, endpoints_ask_check n other, ← ask_check]
    · intro j
      show ((n.ask i Endpoint.check).2.askAll (i + 1) count).2.name j = _
      rw [names, name_ask_check]

/-- **The checks of all endpoints end as their answers say**, each at the position of its endpoint. -/
theorem checkAll_eq (n : Net) (limit now : Nat) :
    (n.checkAll limit now).1 = n.endpointChecks.map (·.checkup limit) ∧ n.names = n.endpointChecks.map (·.name) := by
  constructor
  · obtain ⟨answers, names⟩ := n.askAll_eq 0 n.endpoints.size
    show ((n.askAll 0 n.endpoints.size).1.mapIdx fun i a =>
      Pool.checkup ((n.askAll 0 n.endpoints.size).2.name i) limit a) = _
    refine List.ext_getElem? fun i => ?_
    rw [answers, List.getElem?_mapIdx, endpointChecks, List.getElem?_map, List.getElem?_map, List.getElem?_map, names,
      @Array.getElem?_toList _ n.endpoints]
    cases here : n.endpoints[i]? with
    | none =>
      rw [List.getElem?_eq_none (by simpa using here)]
      rfl
    | some e =>
      have inside : i < n.endpoints.size := (Array.getElem?_eq_some_iff.1 here).1
      have answer : (n.ask i Endpoint.check).1 = e.check.1 := by rw [ask_check, here]; rfl
      have named : n.name i = e.name := by rw [name, here]; rfl
      rw [List.getElem?_range' inside]
      simp [answer, named, EndpointCheck.checkup]
  · simp [names, endpointChecks]

end Network.Net

namespace Pool

/-! ## The result -/

end Pool

end TxLoad
