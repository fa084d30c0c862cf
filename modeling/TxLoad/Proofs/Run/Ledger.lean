import TxLoad.Proofs.Run.Ending

/-!
# The ledger of a run

The counts of a run are kept in two places and moved by four pieces of the program. They always agree with where its
dispatches stand, but for the transactions whose watch broke off: those are submitted, and have no count of their own.

- `Context.booked` is what the counts say of a class;
- `Ledger` ties every count to a tally, and is kept by every move (`Ledger.move`);
- `Dated` says which watches break off: those whose deadline the clock cannot tell;
- **no dispatch is lost or counted twice**, in whatever order things happen (`ledger_balances`).
-/

namespace TxLoad.Dispatch

/-- A dispatch is admitted with an index. -/
def Action.admission? : Action → Option Nat
  | admitted i => some i
  | _ => none

/-! ## What is booked -/

namespace Context

/-- What is booked for a class. Nothing is booked for the transactions without a verdict: they are what is left of the
submitted ones. -/
def booked (c : Context) : Standing → Nat
  | .dispatching => c.counters.inFlight
  | .failed => c.stats.failed
  | .tracking => 0
  | .confirmed => c.stats.confirmed
  | .reverted => c.stats.reverted
  | .lost => c.stats.watchErrors
  | .expired => c.stats.timeouts
  | .broken => 0

/-- The submitted transactions that have a verdict. -/
def settled (c : Context) : Nat := c.stats.confirmed + c.stats.reverted + c.stats.watchErrors + c.stats.timeouts

variable {c c' : Context}

theorem booked_congr (counters : c'.counters = c.counters) (stats : c'.stats = c.stats) (x : Standing) :
    c'.booked x = c.booked x := by
  cases x <;> simp only [booked, counters, stats]

theorem booked_begin (counters : c'.counters = c.counters.begin) (stats : c'.stats = c.stats) (x : Standing) :
    c'.booked x = c.booked x + if .dispatching = x then 1 else 0 := by
  cases x <;> simp [booked, counters, stats, Counters.begin]

theorem booked_fail (live : 0 < c.counters.inFlight) (counters : c'.counters = c.counters.finish false)
    (stats : c'.stats = c.stats.fail) (x : Standing) :
    c'.booked x + (if .dispatching = x then 1 else 0) = c.booked x + if .failed = x then 1 else 0 := by
  cases x <;> simp [booked, counters, stats, Counters.finish, Stats.fail]
  omega

theorem booked_submit (live : 0 < c.counters.inFlight) (counters : c'.counters = c.counters.finish true)
    (stats : c'.stats = c.stats.submission) (x : Standing) :
    c'.booked x + (if .dispatching = x then 1 else 0) = c.booked x := by
  cases x <;> simp [booked, counters, stats, Counters.finish, Stats.submission]
  omega

/-- A verdict is booked as what it is. -/
theorem booked_count (p : Pending) (v : Verdict) (patience : Option Nat) (x : Standing) :
    (p.count v patience c).booked x = c.booked x + if v.standing = x then 1 else 0 := by
  cases v with
  | settled r =>
    cases success : r.success <;> cases x <;>
      simp [booked, Pending.stats_count, Verdict.standing, success, Stats.settle, Stats.pay]
  | lost e => cases x <;> simp [booked, Pending.stats_count, Verdict.standing, Stats.lose]
  | expired => cases x <;> simp [booked, Pending.stats_count, Verdict.standing, Stats.expire]

theorem settled_count (p : Pending) (v : Verdict) (patience : Option Nat) :
    (p.count v patience c).settled = c.settled + 1 := by
  simp only [settled, Pending.stats_count]
  cases v with
  | settled r => cases success : r.success <;> simp [Stats.settle, Stats.pay, success] <;> omega
  | lost e => simp only [Stats.lose]; omega
  | expired => simp only [Stats.expire]; omega

end Context

/-! ## The ledger -/

/-- **The counts of a run agree with where its dispatches stand**, and its trace with the indices it handed out. -/
structure Ledger (r : Run) (ds : List Action) : Prop where
  size : r.jobs.size = r.context.counters.nextIndex
  indices : ds.filterMap Action.admission? = List.range r.context.counters.nextIndex
  classes : ∀ x, x ≠ .tracking → x ≠ .broken → r.context.booked x = r.tally x
  submitted : r.context.counters.submitted = r.context.settled + r.tally .tracking + r.tally .broken
  total : r.context.counters.nextIndex =
    r.context.counters.submitted + r.context.stats.failed + r.context.counters.inFlight

namespace Ledger

variable {s : Setup} {r r' : Run} {ds : List Action} {i : Nat}

theorem start (s : Setup) (pool : Pool) (registry : Registry) (now : Nat) :
    Ledger (Run.start s pool registry now) [] where
  size := rfl
  indices := rfl
  classes x _ _ := by cases x <;> rfl
  submitted := rfl
  total := rfl

theorem inFlight (h : Ledger r ds) : r.context.counters.inFlight = r.tally .dispatching :=
  h.classes .dispatching (by decide) (by decide)

theorem inFlight_pos (h : Ledger r ds) (live : r.standing? i = some .dispatching) :
    0 < r.context.counters.inFlight := by
  rw [h.inFlight]
  exact Run.tally_pos live

/-- A move that neither counts nor leaves a class keeps the ledger. -/
theorem frame (h : Ledger r ds) {d : Option Action} (quiet : d.bind Action.admission? = none)
    (size : r'.jobs.size = r.jobs.size) (tally : ∀ x, r'.tally x = r.tally x)
    (counters : r'.context.counters = r.context.counters) (stats : r'.context.stats = r.context.stats) :
    Ledger r' (ds ++ d.toList) where
  size := by rw [size, counters]; exact h.size
  indices := by
    rw [counters, List.filterMap_append, h.indices]
    cases d with
    | none => simp
    | some d => simpa using quiet
  classes x other whole := by
    rw [tally, Context.booked_congr counters stats]
    exact h.classes x other whole
  submitted := by
    rw [tally, tally, counters, Context.settled, stats]
    exact h.submitted
  total := by rw [counters, stats]; exact h.total

/-- An admission keeps the ledger: the new index is the next one. -/
theorem enter (h : Ledger r ds) (jobs : r'.jobs = r.jobs.push .admitted)
    (counters : r'.context.counters = r.context.counters.begin) (stats : r'.context.stats = r.context.stats) :
    Ledger r' (ds ++ [.admitted r.context.counters.nextIndex]) := by
  have moved := Run.tally_of_push jobs
  refine ⟨?size, ?indices, ?classes, ?submitted, ?total⟩
  case size => simp [jobs, counters, Counters.begin, h.size]
  case indices => simp [counters, Counters.begin, Action.admission?, h.indices, List.range_succ]
  case classes =>
    intro x other whole
    rw [moved, Context.booked_begin counters stats, h.classes x other whole]
  case submitted =>
    have tracking := moved .tracking
    have broken := moved .broken
    simp only [reduceCtorEq, if_false, Nat.add_zero] at tracking broken
    rw [tracking, broken, counters, Context.settled, stats]
    exact h.submitted
  case total =>
    have total := h.total
    simp only [counters, stats, Counters.begin]
    omega

/-- A failure keeps the ledger: what was dispatching is failed. -/
theorem fail (h : Ledger r ds) {st : Stage} {loss : Option (Nat × Nat)} {e : Failure} (here : r.jobs[i]? = some st)
    (live : st.standing = .dispatching) (jobs : r'.jobs = r.jobs.setIfInBounds i (.failed e))
    (counters : r'.context.counters = r.context.counters.finish false)
    (stats : r'.context.stats = r.context.stats.fail) : Ledger r' (ds ++ [.failed i loss e]) := by
  have moved := Run.tally_of_set (y := .failed) here jobs live rfl
  have pos : 0 < r.context.counters.inFlight := h.inFlight_pos (i := i) (by simp [Run.standing?, here, live])
  refine ⟨?size, ?indices, ?classes, ?submitted, ?total⟩
  case size => simp [jobs, counters, Counters.finish, h.size]
  case indices => simp [counters, Counters.finish, Action.admission?, h.indices]
  case classes =>
    intro x other whole
    have := moved x
    have := Context.booked_fail pos counters stats x
    have := h.classes x other whole
    omega
  case submitted =>
    have tracking := moved .tracking
    have broken := moved .broken
    simp only [reduceCtorEq, if_false, Nat.add_zero] at tracking broken
    rw [tracking, broken, counters, Context.settled, stats]
    exact h.submitted
  case total =>
    have total := h.total
    simp only [counters, stats, Counters.finish, Stats.fail, Bool.toNat_false]
    omega

/-- A submission keeps the ledger: what was dispatching is tracking. -/
theorem submit (h : Ledger r ds) {st : Stage} {p : Pending} (here : r.jobs[i]? = some st)
    (live : st.standing = .dispatching) (jobs : r'.jobs = r.jobs.setIfInBounds i (.submitted p))
    (counters : r'.context.counters = r.context.counters.finish true)
    (stats : r'.context.stats = r.context.stats.submission) : Ledger r' (ds ++ [.submitted i p]) := by
  have moved := Run.tally_of_set (y := .tracking) here jobs live rfl
  have pos : 0 < r.context.counters.inFlight := h.inFlight_pos (i := i) (by simp [Run.standing?, here, live])
  refine ⟨?size, ?indices, ?classes, ?submitted, ?total⟩
  case size => simp [jobs, counters, Counters.finish, h.size]
  case indices => simp [counters, Counters.finish, Action.admission?, h.indices]
  case classes =>
    intro x other whole
    have moved := moved x
    rw [if_neg (Ne.symm other)] at moved
    have := Context.booked_submit pos counters stats x
    have := h.classes x other whole
    omega
  case submitted =>
    have tracking := moved .tracking
    have broken := moved .broken
    have submitted := h.submitted
    simp only [reduceCtorEq, if_true, if_false, Nat.add_zero] at tracking broken
    simp only [counters, stats, Context.settled, Counters.finish, Stats.submission, Bool.toNat_true] at submitted ⊢
    omega
  case total =>
    have total := h.total
    simp only [counters, stats, Counters.finish, Stats.submission, Bool.toNat_true]
    omega

/-- A verdict keeps the ledger: what was tracking is what the verdict says. -/
theorem close (h : Ledger r ds) {p : Pending} {v : Verdict} {patience : Option Nat}
    (here : r.jobs[i]? = some (.watching p)) (jobs : r'.jobs = r.jobs.setIfInBounds i (.closed p v))
    (context : r'.context = p.count v patience r.context) : Ledger r' (ds ++ [.closed i p v]) := by
  have moved := Run.tally_of_set (x := .tracking) (y := v.standing) here jobs rfl rfl
  have counters : r'.context.counters = r.context.counters := by simp [context]
  refine ⟨?size, ?indices, ?classes, ?submitted, ?total⟩
  case size => simp [jobs, counters, h.size]
  case indices => simp [counters, Action.admission?, h.indices]
  case classes =>
    intro x other whole
    have moved := moved x
    rw [if_neg (Ne.symm other)] at moved
    rw [context, Context.booked_count, h.classes x other whole]
    exact moved.symm
  case submitted =>
    have tracking := moved .tracking
    have broken := moved .broken
    rw [if_pos rfl, if_neg v.standing_ne.2] at tracking
    rw [if_neg (by decide), if_neg v.standing_ne_broken] at broken
    rw [counters, context, Context.settled_count, h.submitted]
    omega
  case total =>
    have failed := Context.booked_count (c := r.context) p v patience .failed
    have : v.standing ≠ .failed := by
      cases v with
      | settled c => cases success : c.success <;> simp [Verdict.standing, success]
      | _ => simp [Verdict.standing]
    rw [if_neg this] at failed
    rw [counters, context, h.total]
    exact congrArg (_ + · + _) failed.symm

/-- A watch that breaks off keeps the ledger: nothing is booked, and what was tracking is broken. -/
theorem breakOff (h : Ledger r ds) {p : Pending} (here : r.jobs[i]? = some (.submitted p))
    (jobs : r'.jobs = r.jobs.setIfInBounds i (.broken p)) (context : r'.context = r.context.release) :
    Ledger r' ds := by
  have moved := Run.tally_of_set (x := .tracking) (y := .broken) here jobs rfl rfl
  have counters : r'.context.counters = r.context.counters := by rw [context]; rfl
  have stats : r'.context.stats = r.context.stats := by rw [context]; rfl
  refine ⟨?size, ?indices, ?classes, ?submitted, ?total⟩
  case size => simp [jobs, counters, h.size]
  case indices => rw [counters, h.indices]
  case classes =>
    intro x other whole
    have moved := moved x
    rw [if_neg (Ne.symm other), if_neg (Ne.symm whole)] at moved
    rw [Context.booked_congr counters stats, h.classes x other whole]
    exact moved.symm
  case submitted =>
    have tracking := moved .tracking
    have broken := moved .broken
    simp only [reduceCtorEq, if_true, if_false, Nat.add_zero] at tracking broken
    rw [counters, Context.settled, stats, h.submitted, Context.settled]
    omega
  case total => rw [counters, stats]; exact h.total

/-- **Every move keeps the ledger.** -/
theorem move (h : Ledger r ds) {d : Option Action} (m : Move s r d r') : Ledger r' (ds ++ d.toList) := by
  cases m with
  | rest | queue | pace | join | conclude => exact h.frame rfl rfl (fun _ => rfl) rfl rfl
  | abort => exact h.frame rfl rfl (fun _ => rfl) rfl rfl
  | enter => exact h.enter rfl rfl rfl
  | @quote _ endpoint worker _ _ here =>
    exact h.frame rfl (by simp) (Run.tally_of_stay here (.quoting endpoint worker) rfl rfl) rfl rfl
  | @assemble _ endpoint worker _ _ _ _ _ t _ _ here early =>
    have same := (Stage.standing_of_isUnassembled early).symm
    exact h.frame rfl (by simp) (Run.tally_of_stay here (.sending endpoint worker t) same rfl) rfl rfl
  | fail here spends => exact h.fail here (Stage.standing_of_spends spends) rfl (by simp) (by simp)
  | submit here => exact h.submit here rfl rfl rfl rfl
  | @watch _ p here => exact h.frame rfl (by simp) (Run.tally_of_stay here (.watching p) rfl rfl) rfl rfl
  | breakOff here => simpa using h.breakOff here rfl rfl
  | close here => exact h.close here rfl rfl

theorem after (s : Setup) (pool : Pool) (registry : Registry) (now : Nat) (events : List Event) :
    Ledger ((Run.start s pool registry now).after s events) ((Run.start s pool registry now).trace s events) :=
  Run.after_induction (start s pool registry now) (fun h m => h.move m) events

theorem isSome_standing? (h : Ledger r ds) (i : Nat) :
    (r.standing? i).isSome ↔ i < r.context.counters.nextIndex := by
  rw [Run.standing?, Option.isSome_map, ← h.size]
  simp

/-- When a dispatch ends there is one to take from those in flight. -/
theorem inFlight_of_end (h : Ledger r ds) (e : Event) (live : r.standing? i = some .dispatching)
    (gone : (r.step s e).standing? i ≠ some .dispatching) :
    (r.step s e).context.counters.inFlight + 1 = r.context.counters.inFlight := by
  have pos := h.inFlight_pos live
  have way := (Run.move_step s r e).transition i
  rw [live] at way
  generalize (r.step s e).standing? i = x at way gone
  cases way with
  | stay => exact absurd rfl gone
  | fail c counters _ released => simp only [released, Context.release, counters, Counters.finish]; omega
  | submit counters => simp only [counters, Counters.finish]; omega

end Ledger

/-! ## What the clock can tell -/

/-- A stage of a submitted transaction as the clock has it: it was submitted before now, and if its watch has begun, it
broke off exactly if the clock cannot tell the deadline. -/
def Stage.Dated (patience : Option Nat) (now : Nat) : Stage → Prop
  | submitted p => p.submitted ≤ now
  | watching p | closed p _ => p.submitted ≤ now ∧ p.isTellable patience = true
  | broken p => p.submitted ≤ now ∧ p.isTellable patience = false
  | _ => True

/-- Every submitted transaction stands as the clock has it. -/
def Dated (patience : Option Nat) (r : Run) : Prop := ∀ st ∈ r.jobs, st.Dated patience r.now

namespace Dated

variable {s : Setup} {r r' : Run} {d : Option Action} {patience : Option Nat} {i : Nat} {a b : Stage}

theorem stage (h : Dated patience r) (here : r.jobs[i]? = some a) : a.Dated patience r.now :=
  h a (Array.mem_of_getElem? here)

/-- Time that passes changes nothing about it. -/
theorem later (h : Dated patience r) (jobs : r'.jobs = r.jobs) (now : r.now ≤ r'.now) : Dated patience r' := by
  intro st mem
  have before := h st (jobs ▸ mem)
  cases st with
  | submitted => exact Nat.le_trans before now
  | watching | closed | broken => exact ⟨Nat.le_trans before.1 now, before.2⟩
  | _ => trivial

/-- A stage that is as the clock has it may be reached. -/
theorem reach (h : Dated patience r) (jobs : r'.jobs = r.jobs.setIfInBounds i b) (now : r'.now = r.now)
    (dated : b.Dated patience r.now) : Dated patience r' := by
  intro st mem
  rw [now]
  rw [jobs] at mem
  rcases Array.mem_or_eq_of_mem_setIfInBounds mem with old | rfl
  · exact h st old
  · exact dated

/-- **Every move keeps what the clock has.** -/
theorem move (h : Dated s.options.patience r) (m : Move s r d r') : Dated s.options.patience r' := by
  cases m with
  | rest now => exact h.later rfl now
  | queue | pace | join | conclude | abort => exact h.later rfl (Nat.le_refl _)
  | enter =>
    intro st mem
    rcases Array.mem_push.1 mem with old | rfl
    · exact h st old
    · trivial
  | quote | assemble | fail => exact h.reach rfl rfl trivial
  | submit => exact h.reach rfl rfl (Nat.le_refl r.now)
  | watch here told => exact h.reach rfl rfl ⟨h.stage here, told⟩
  | breakOff here untold => exact h.reach rfl rfl ⟨h.stage here, untold⟩
  | close here => exact h.reach rfl rfl (h.stage here :)

theorem after (s : Setup) (pool : Pool) (registry : Registry) (now : Nat) (events : List Event) :
    Dated s.options.patience ((Run.start s pool registry now).after s events) :=
  Run.after_induction (P := fun r _ => Dated s.options.patience r) (fun _ mem => absurd mem (by simp [Run.start]))
    (fun h m => h.move m) events

/-- No watch breaks off as long as the clock can tell what lies so far ahead. -/
theorem unbroken (h : Dated patience r) (near : ∀ limit ∈ patience, r.now + limit < Wait.horizon) :
    r.tally .broken = 0 := by
  rw [Run.tally, Array.countP_eq_zero]
  intro st mem
  have dated := h st mem
  cases st with
  | broken p =>
    obtain ⟨before, untold⟩ := dated
    cases patience with
    | none => cases untold
    | some limit =>
      have := near limit rfl
      simp [Pending.isTellable] at untold
      omega
  | closed p v => simp [Stage.standing, v.standing_ne_broken]
  | _ => simp [Stage.standing]

/-- Every watch breaks off when the limit alone is more than the clock can tell. -/
theorem unsettled (h : Dated patience r) {limit : Nat} (limited : patience = some limit)
    (far : Wait.horizon ≤ limit) {v : Verdict} : r.tally v.standing = 0 := by
  rw [Run.tally, Array.countP_eq_zero]
  intro st mem
  have dated := h st mem
  obtain ⟨live, ended⟩ := v.standing_ne
  have whole := v.standing_ne_broken
  cases st with
  | closed p v =>
    have told := dated.2
    simp [limited, Pending.isTellable] at told
    omega
  | failed => cases v <;> simp [Stage.standing, Verdict.standing]; split <;> simp
  | _ => simp_all [Stage.standing, eq_comm]

end Dated

/-! ## No dispatch is lost or counted twice -/

/-- **The ledger balances** after any events in any order. Every index below the next one was handed out once and its
dispatch stands in one class; the counts are the sizes of the classes and add up; the number in flight is never taken
below zero. A run that returns a summary has nothing under way: every dispatch in it was submitted or failed, every
submission was confirmed, reverted or lost, and none was late.

Only the transactions whose watch broke off are missing from the counts. Those are the ones whose deadline the clock
cannot tell: there are none as long as it can tell the limit from now on, and with a limit that is more than it can tell
no submitted transaction is ever counted as anything. -/
theorem ledger_balances (s : Setup) (pool : Pool) (registry : Registry) (now : Nat) (events : List Event) :
    let start := Run.start s pool registry now
    let r := start.after s events
    let counters := r.context.counters
    let stats := r.context.stats
    (start.trace s events).filterMap Action.admission? = List.range counters.nextIndex ∧
      (∀ i, (r.standing? i).isSome ↔ i < counters.nextIndex) ∧
      (counters.inFlight = r.tally .dispatching ∧ stats.failed = r.tally .failed ∧
        stats.confirmed = r.tally .confirmed ∧ stats.reverted = r.tally .reverted ∧
        stats.watchErrors = r.tally .lost ∧ stats.timeouts = r.tally .expired) ∧
      counters.nextIndex = counters.submitted + stats.failed + counters.inFlight ∧
      counters.submitted =
        stats.confirmed + stats.reverted + stats.watchErrors + stats.timeouts + r.tally .tracking +
          r.tally .broken ∧
      (∀ e i, r.standing? i = some .dispatching → (r.step s e).standing? i ≠ some .dispatching →
        (r.step s e).context.counters.inFlight + 1 = counters.inFlight) ∧
      (∀ summary, r.result? = some (.ok summary) →
        summary.dispatched = summary.submitted + summary.failed ∧
          summary.submitted = summary.confirmed + summary.reverted + summary.watchErrors + r.tally .broken ∧
          summary.timeouts = 0) ∧
      -- which watches break off
      (∀ st ∈ r.jobs, st.Dated s.options.patience r.now) ∧
      ((∀ limit ∈ s.options.patience, r.now + limit < Wait.horizon) → r.tally .broken = 0) ∧
      ∀ limit ∈ s.options.patience, Wait.horizon ≤ limit →
        counters.submitted = r.tally .tracking + r.tally .broken := by
  intro start r counters stats
  have ledger : Ledger r (start.trace s events) := Ledger.after s pool registry now events
  have ending : Ending r := Ending.after s pool registry now events
  have dated : Dated s.options.patience r := Dated.after s pool registry now events
  have confirmed : stats.confirmed = r.tally .confirmed := ledger.classes .confirmed (by decide) (by decide)
  have reverted : stats.reverted = r.tally .reverted := ledger.classes .reverted (by decide) (by decide)
  have lost : stats.watchErrors = r.tally .lost := ledger.classes .lost (by decide) (by decide)
  have expired : stats.timeouts = r.tally .expired := ledger.classes .expired (by decide) (by decide)
  refine ⟨ledger.indices, ledger.isSome_standing?,
    ⟨ledger.inFlight, ledger.classes .failed (by decide) (by decide), confirmed, reverted, lost, expired⟩,
    ledger.total, ledger.submitted, fun e i => ledger.inFlight_of_end e, fun summary ok => ?_, dated, dated.unbroken,
    fun limit limited far => ?_⟩
  · obtain ⟨idle, settled, timely, moment, rfl⟩ := ending.ended ok
    have flying := ledger.inFlight
    have total := ledger.total
    have submitted := ledger.submitted
    rw [idle] at flying
    rw [settled, Context.settled, timely] at submitted
    simp only [Context.summary]
    omega
  · have submitted : counters.submitted = stats.confirmed + stats.reverted + stats.watchErrors + stats.timeouts +
      r.tally .tracking + r.tally .broken := ledger.submitted
    have nothing (v : Verdict) : r.tally v.standing = 0 := dated.unsettled limited far
    have confirmations : r.tally .confirmed = 0 := nothing (.settled ⟨0, true, 0, none, none, none⟩)
    have reversals : r.tally .reverted = 0 := nothing (.settled ⟨0, false, 0, none, none, none⟩)
    have losses : r.tally .lost = 0 := nothing (.lost .noAccounts)
    have delays : r.tally .expired = 0 := nothing .expired
    omega

end TxLoad.Dispatch
