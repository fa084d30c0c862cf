import TxLoad.Proofs.Run.Pacing
import TxLoad.Proofs.Run.Raising
import TxLoad.Proofs.Run.Slots
import Mathlib.Data.List.Induction

/-!
# The timetable of a paced run

A loop that is ahead of its throughput looks again every tenth of a second, and then admits all that is allowed by then
before it waits for the next look. As long as nothing fails, the number of admissions at any moment can be told from
the clock alone.

- `Options.allowance` is what the throughput allows after some time, and `Options.capped` puts the count as its limit;
- `Timetable` says where the loop stands between two looks, and how many dispatches it has admitted by then; it is kept
  by every step (`Timed.step`), since time never passes beyond the next look (`step_now`);
- the loop goes on only finitely often before time has to pass (`Run.settles`);
- **what is allowed at the last look is admitted, all of it and no more** (`admitted_on_schedule`).
-/

namespace TxLoad.Dispatch

/-! ## What is allowed -/

/-- What the throughput allows after some milliseconds. -/
def Options.allowance (o : Options) (elapsed : Nat) : Nat := o.throughput * slotsBegun elapsed o.slot

/-- A number of dispatches, or the count if there is one and it is less. -/
def Options.capped (o : Options) (n : Nat) : Nat := if o.count = 0 then n else min o.count n

section Allowance

variable {o : Options} {elapsed elapsed' accounted : Nat}

theorem slotsBegun_mono (later : elapsed ≤ elapsed') (slot : Nat) :
    slotsBegun elapsed slot ≤ slotsBegun elapsed' slot := by
  have := Nat.div_le_div_right (c := max slot 1) later
  unfold slotsBegun
  omega

/-- All slots that have begun count, as long as their number fits a word. -/
theorem slotsBegun_eq {slot : Nat} (lasts : 0 < slot) (fits : elapsed / slot < word64Max) :
    slotsBegun elapsed slot = elapsed / slot + 1 := by
  have width : max slot 1 = slot := Nat.max_eq_left lasts
  unfold slotsBegun
  rw [width]
  omega

theorem Options.allowance_mono (o : Options) (later : elapsed ≤ elapsed') :
    o.allowance elapsed ≤ o.allowance elapsed' :=
  Nat.mul_le_mul_left _ (slotsBegun_mono later _)

theorem ahead_iff (limited : 0 < o.throughput) :
    ahead accounted elapsed o.slot o.throughput = true ↔ o.allowance elapsed ≤ accounted := by
  simp only [ahead, limited, decide_true, Bool.true_and, decide_eq_true_eq]
  exact Nat.le_div_iff_mul_le (slotsBegun_pos _ _)

end Allowance

/-! ## Between two looks -/

section Gate

variable {g g' : Gate}

theorem Gate.take?_of_wide (wide : g.capacity = 0) : g.take? = some g := by simp [take?, bounded, wide]

theorem Gate.capacity_take? (taken : g.take? = some g') : g'.capacity = g.capacity := by
  unfold take? at taken
  split at taken
  · cases taken
    rfl
  · split at taken <;> cases taken
    rfl

theorem Gate.capacity_receive? (received : g.receive? = some g') : g'.capacity = g.capacity := by
  unfold receive? at received
  split at received <;> cases received
  rfl

end Gate

namespace Run

variable {s : Setup} {r : Run}

/-- Nothing has failed, and nothing fatal was raised. -/
structure Smooth (r : Run) : Prop where
  failed : r.context.stats.failed = 0
  raised : r.context.fatal.count = 0

/-- What is smooth after a step was so before. -/
theorem Smooth.before {r' : Run} {d : Option Action} (smooth : r'.Smooth) (m : Move s r d r') : r.Smooth := by
  obtain ⟨failed, raised⟩ := smooth
  cases m with
  | fail => simp [Stats.fail] at failed
  | @close _ p v _ here =>
    rw [Pending.failed_count] at failed
    rw [Pending.fatal_count] at raised
    cases v with
    | settled | lost => exact ⟨failed, raised⟩
    | expired => simp at raised
  | rest | enter | queue | pace | join | conclude | abort | quote | assemble | submit | watch | breakOff =>
    exact ⟨failed, raised⟩

/-- Where nothing was raised, there is nothing to return. -/
theorem Smooth.first_none {ds : List Action} (smooth : r.Smooth) (signal : Signal s r ds) :
    r.context.fatal.first = none := by
  rw [Option.eq_none_iff_forall_ne_some]
  intro e first
  have raised := signal.first e first
  have count := signal.count
  rw [smooth.raised] at count
  rw [List.length_eq_zero_iff.1 count.symm] at raised
  cases raised

end Run

/-- **Where the loop stands after look number `j`**, and how many dispatches it has admitted by then: it goes on and has
not admitted all that is allowed; it has, and waits for the next look; or the count is reached. -/
inductive Timetable (s : Setup) (first : Nat) (r : Run) : Prop
  | admitting (j : Nat) (main : r.main = .acquiring) (moment : r.now = first + pollInterval * j)
      (below : r.context.counters.nextIndex < s.options.allowance (pollInterval * j))
      (short : 0 < s.options.count → r.context.counters.nextIndex < s.options.count)
  | waiting (j : Nat) (main : r.main = .pacing (first + pollInterval * (j + 1)))
      (since : first + pollInterval * j ≤ r.now) (till : r.now ≤ first + pollInterval * (j + 1))
      (used : r.context.counters.nextIndex = s.options.allowance (pollInterval * j))
      (short : 0 < s.options.count → r.context.counters.nextIndex < s.options.count)
  | full (j : Nat) (main : r.main.isFull) (since : first + pollInterval * j ≤ r.now)
      (counted : 0 < s.options.count) (reached : r.context.counters.nextIndex = s.options.count)
      (within : s.options.count ≤ s.options.allowance (pollInterval * j))

namespace Timetable

variable {s : Setup} {first : Nat} {r r' : Run} {ds : List Action}

/-- As long as nothing fails, all that was admitted is accounted for. -/
theorem accounted_eq (ledger : Ledger r ds) (smooth : r.Smooth) :
    r.context.counters.accounted = r.context.counters.nextIndex := by
  have total := ledger.total
  rw [smooth.failed] at total
  unfold Counters.accounted
  omega

/-- A step that moves neither the loop nor the clock, and admits nothing, leaves the timetable as it is. -/
theorem frame (h : Timetable s first r) (main : r'.main = r.main) (now : r'.now = r.now)
    (admitted : r'.context.counters.nextIndex = r.context.counters.nextIndex) : Timetable s first r' := by
  cases h with
  | admitting j main' moment below short =>
    exact .admitting j (main.trans main') (now.trans moment) (admitted ▸ below) (admitted ▸ short)
  | waiting j main' since till used short =>
    exact .waiting j (main.trans main') (now ▸ since) (now ▸ till) (admitted.trans used) (admitted ▸ short)
  | full j main' since counted reached within =>
    exact .full j (main ▸ main') (now ▸ since) counted (admitted.trans reached) within

/-- After a look the loop goes on if not all is admitted that is allowed, and waits otherwise. -/
theorem of_paced (limited : 0 < s.options.throughput) {j : Nat} (main : r.main = r.paced s)
    (started : r.context.started = first) (moment : r.now = first + pollInterval * j)
    (accounted : r.context.counters.accounted = r.context.counters.nextIndex)
    (within : r.context.counters.nextIndex ≤ s.options.allowance (pollInterval * j))
    (short : 0 < s.options.count → r.context.counters.nextIndex < s.options.count) : Timetable s first r := by
  have elapsed : r.context.elapsed r.now = pollInterval * j := by
    rw [Context.elapsed, started, moment, Nat.add_sub_cancel_left]
  unfold Run.paced at main
  have looked : r.isAhead s = true ↔ s.options.allowance (pollInterval * j) ≤ r.context.counters.nextIndex := by
    rw [Run.isAhead, ahead_iff limited, accounted, elapsed]
  split at main
  · next isAhead =>
    have used := looked.1 isAhead
    refine .waiting j ?_ (Nat.le_of_eq moment.symm) ?_ (Nat.le_antisymm within used) short
    · rw [main, moment, Nat.mul_succ, Nat.add_assoc]
    · rw [moment, Nat.mul_succ]
      omega
  · next going =>
    exact .admitting j main moment (Nat.lt_of_not_le (mt looked.2 going)) short

/-- Time that passes up to the next look changes nothing. -/
theorem pass (h : Timetable s first r) {time : Nat} (can : r.canPass s time) :
    Timetable s first { r with now := time } := by
  obtain ⟨later, calm, alarms⟩ := Run.canPass_iff.1 can
  have idle : r.mainReady = false := (Bool.or_eq_false_iff.1 calm).1
  cases h with
  | admitting j main moment below short =>
    rw [Run.mainReady, main] at idle
    cases first' : r.context.fatal.first <;> simp [first'] at idle
  | waiting j main since till used short =>
    refine .waiting j main (Nat.le_trans since later) ?_ used short
    refine alarms _ (List.mem_append_left _ ?_)
    rw [main]
    exact List.mem_singleton.2 rfl
  | full j main since counted reached within => exact .full j main (Nat.le_trans since later) counted reached within

/-- An admission takes one of those that are left; what comes next is told by the count, or by a look. -/
theorem enter (h : Timetable s first r) (limited : 0 < s.options.throughput) (started : r.context.started = first)
    {gate : Gate} (enters : r.Enters gate)
    (accounted : (r.beginDispatch s gate).context.counters.accounted = (r.beginDispatch s gate).context.counters.nextIndex) :
    Timetable s first (r.beginDispatch s gate) := by
  have admitted : (r.beginDispatch s gate).context.counters.nextIndex = r.context.counters.nextIndex + 1 := rfl
  have other (main : r.main ≠ .acquiring) (main' : r.main ≠ .waiting) : False := by
    rcases enters with ⟨acquiring, -⟩ | ⟨waiting, -⟩
    · exact main acquiring
    · exact main' waiting
  cases h with
  | admitting j main moment below short =>
    have complete : (r.beginDispatch s gate).isComplete s = true ↔
        0 < s.options.count ∧ s.options.count ≤ r.context.counters.nextIndex + 1 := by
      simp only [Run.isComplete, accounted, admitted, Bool.and_eq_true, decide_eq_true_eq]
    by_cases done : (r.beginDispatch s gate).isComplete s = true
    · obtain ⟨counted, reached⟩ := complete.1 done
      have short := short counted
      have joining : (r.beginDispatch s gate).main = .joining := by rw [Run.main_beginDispatch, if_pos done]
      refine .full j ?_ (Nat.le_of_eq moment.symm) counted ?_ ?_
      · rw [joining]
        rfl
      · omega
      · omega
    · have looks : (r.beginDispatch s gate).main = (r.beginDispatch s gate).paced s := by rw [Run.main_beginDispatch, if_neg done]
      refine of_paced limited looks started moment accounted ?_ fun counted => ?_
      · omega
      · exact Nat.lt_of_not_le fun reached => done (complete.2 ⟨counted, admitted ▸ reached⟩)
  | waiting j main => exact (other (by simp [main]) (by simp [main])).elim
  | full j main =>
    exact (other (fun h => by simp [h, Main.isFull] at main) (fun h => by simp [h, Main.isFull] at main)).elim

/-- **Every move of a smooth run that leaves the clock alone keeps the timetable.** -/
theorem move (h : Timetable s first r) (limited : 0 < s.options.throughput) (started : r.context.started = first)
    (wide : r.context.gate.capacity = 0) {d : Option Action} (m : Move s r d r') (now : r'.now = r.now)
    (smooth : r'.Smooth) (signal : Signal s r ds) (ledger : Ledger r' (ds ++ d.toList)) : Timetable s first r' := by
  have accounted := accounted_eq ledger smooth
  have none := (smooth.before m).first_none signal
  cases m with
  | rest | quote | assemble | watch | breakOff => exact h.frame rfl now rfl
  | enter calm enters => exact h.enter limited started enters accounted
  | queue calm main full => simp [Gate.take?_of_wide wide] at full
  | pace calm main due =>
    cases h with
    | admitting j main' => cases main.symm.trans main'
    | waiting j main' since till used short =>
      cases main.symm.trans main'
      have moment : r.now = first + pollInterval * (j + 1) := Nat.le_antisymm till due
      refine of_paced limited rfl started moment accounted ?_ short
      rw [used]
      exact s.options.allowance_mono (Nat.mul_le_mul_left _ (Nat.le_succ j))
    | full j main' => simp [main, Main.isFull] at main'
  | join calm main =>
    cases h with
    | admitting j main' | waiting j main' => cases main.symm.trans main'
    | full j main' since counted reached within => exact .full j rfl since counted reached within
  | conclude calm main =>
    cases h with
    | admitting j main' | waiting j main' => cases main.symm.trans main'
    | full j main' since counted reached within => exact .full j rfl since counted reached within
  | abort raised => cases none.symm.trans raised
  | fail =>
    refine h.frame rfl now ?_
    simp [Counters.finish]
  | submit => exact h.frame rfl now rfl
  | close =>
    refine h.frame rfl now ?_
    simp

end Timetable

/-! ## Every run -/

/-- **A run that began at `first` keeps to the timetable** as long as it is smooth. -/
structure Timed (s : Setup) (first : Nat) (r : Run) : Prop where
  started : r.context.started = first
  begun : first ≤ r.now
  wide : r.context.gate.capacity = 0
  kept : r.Smooth → Timetable s first r

namespace Timed

variable {s : Setup} {first : Nat} {r r' : Run} {ds : List Action}

/-- The first look comes after the first admission. -/
theorem start (s : Setup) (pool : Pool) (registry : Registry) (now : Nat) (limited : 0 < s.options.throughput)
    (unbounded : s.options.maxPending = 0) : Timed s now (Run.start s pool registry now) where
  started := rfl
  begun := Nat.le_refl _
  wide := by simp [Run.start, Context.new, Gate.ofLimit, unbounded]
  kept _ := .admitting 0 rfl rfl (Nat.mul_pos limited (slotsBegun_pos _ _)) id

/-- **Every step keeps to the timetable.** -/
theorem step (h : Timed s first r) (limited : 0 < s.options.throughput) (signal : Signal s r ds) (ledger : Ledger r ds)
    (e : Event) : Timed s first (r.step s e) := by
  have m := Run.move_step s r e
  rcases Run.step_now s r e with now | ⟨time, -, can, passed⟩
  · refine ⟨?started, by rw [now]; exact h.begun, ?wide, fun smooth => ?kept⟩
    case kept =>
      exact (h.kept (smooth.before m)).move limited h.started h.wide m now smooth signal (ledger.move m)
    all_goals
      generalize r.step s e = r' at m
      generalize r.action? s e = d at m
    case started =>
      refine Eq.trans ?_ h.started
      cases m with
      | fail | close => simp
      | _ => rfl
    case wide =>
      refine Eq.trans ?_ h.wide
      cases m with
      | enter calm enters =>
        rcases enters with ⟨-, taken⟩ | ⟨-, received⟩
        · exact Gate.capacity_take? taken
        · exact Gate.capacity_receive? received
      | breakOff => exact Gate.capacity_release _
      | fail | close => simp
      | _ => rfl
  · have later : r.now ≤ time := (Run.canPass_iff.1 can).1
    rw [passed]
    exact ⟨h.started, Nat.le_trans h.begun later, h.wide, fun smooth => (h.kept ⟨smooth.1, smooth.2⟩).pass can⟩

/-- Every run keeps to the timetable. -/
theorem after (s : Setup) (pool : Pool) (registry : Registry) (now : Nat) (limited : 0 < s.options.throughput)
    (unbounded : s.options.maxPending = 0) (events : List Event) :
    Timed s now ((Run.start s pool registry now).after s events) := by
  induction events using List.reverseRecOn with
  | nil => exact start s pool registry now limited unbounded
  | append_singleton events e ih =>
    rw [Run.after_append]
    exact ih.step limited (Signal.after s pool registry now events) (Ledger.after s pool registry now events) e

end Timed

/-! ## A moment's end -/

/-- How many steps a loop has left at most before time has to pass, while `left` more may be admitted. -/
def Main.stepsLeft (left now : Nat) : Main → Nat
  | .acquiring => left + 3
  | .waiting => 0
  | .pacing till => if till ≤ now then left + 4 else 0
  | .joining => 2
  | .confirming => 1
  | .returned _ => 0

namespace Run

variable {s : Setup} {r : Run}

/-- What is left to be admitted by now. -/
def left (s : Setup) (r : Run) : Nat :=
  s.options.allowance (r.context.elapsed r.now) - r.context.counters.nextIndex

/-- After a look the loop goes on at once, or not at this moment. -/
theorem stepsLeft_paced (s : Setup) (r : Run) (left : Nat) : (r.paced s).stepsLeft left r.now ≤ left + 3 := by
  unfold paced
  split
  · have later : ¬ r.now + pollInterval ≤ r.now := by simp [pollInterval]
    simp [Main.stepsLeft, later]
  · exact Nat.le_refl _

/-- The loop does not make a smooth run any less so. -/
theorem Smooth.resume (smooth : r.Smooth) (none : r.context.fatal.first = none) : (r.resume s).Smooth := by
  obtain ⟨failed, raised⟩ := smooth
  unfold Run.resume
  rw [none]
  cases main : r.main with
  | acquiring | waiting | pacing | joining | confirming =>
    simp only [advance, main]
    split <;> exact ⟨failed, raised⟩
  | returned => exact ⟨failed, raised⟩

end Run

/-- **Each step that the loop has to take is one of finitely many.** -/
theorem Timetable.stepsLeft_resume {s : Setup} {first : Nat} {r : Run} (h : Timetable s first r)
    (started : r.context.started = first) (wide : r.context.gate.capacity = 0) (none : r.context.fatal.first = none)
    (ready : r.mainReady = true) :
    (r.resume s).main.stepsLeft ((r.resume s).left s) r.now < r.main.stepsLeft (r.left s) r.now := by
  cases h with
  | admitting j main moment below short =>
    have resumed : r.resume s = r.beginDispatch s r.context.gate := by
      simp [Run.resume, none, main, Run.advance, Gate.take?_of_wide wide]
    have left : (r.beginDispatch s r.context.gate).left s + 1 = r.left s := by
      have elapsed : r.context.elapsed r.now = pollInterval * j := by
        rw [Context.elapsed, started, moment, Nat.add_sub_cancel_left]
      have elapsed' : (r.beginDispatch s r.context.gate).context.elapsed (r.beginDispatch s r.context.gate).now = pollInterval * j :=
        elapsed
      have admitted : (r.beginDispatch s r.context.gate).context.counters.nextIndex = r.context.counters.nextIndex + 1 := rfl
      unfold Run.left
      rw [elapsed, elapsed', admitted]
      omega
    have looked := Run.stepsLeft_paced s (r.beginDispatch s r.context.gate) ((r.beginDispatch s r.context.gate).left s)
    rw [resumed, Run.main_beginDispatch, main]
    split
    · simp [Main.stepsLeft]
    · refine Nat.lt_of_le_of_lt looked ?_
      simp only [Main.stepsLeft]
      omega
  | waiting j main since till used short =>
    have due : first + pollInterval * (j + 1) ≤ r.now := by simpa [Run.mainReady, main, none] using ready
    have resumed : r.resume s = { r with main := r.paced s } := by
      simp [Run.resume, none, main, Run.advance, due]
    have looked := Run.stepsLeft_paced s r (r.left s)
    rw [resumed, main, Main.stepsLeft, if_pos due]
    exact Nat.lt_succ_of_le looked
  | full j main since counted reached within =>
    cases main' : r.main with
    | acquiring | waiting | pacing => simp [main', Main.isFull] at main
    | joining =>
      have idle : r.anyDispatching = false := by simpa [Run.mainReady, main', none] using ready
      simp [Run.resume, none, main', Run.advance, idle, Main.stepsLeft]
    | confirming =>
      have idle : r.anyTracking = false := by simpa [Run.mainReady, main', none] using ready
      simp [Run.resume, none, main', Run.advance, idle, Run.conclude, Main.stepsLeft]
    | returned => simp [Run.mainReady, main'] at ready

/-- **A moment comes to its end**: after finitely many steps the loop has none left to take, and the clock has not
moved. -/
theorem Run.settles (s : Setup) (pool : Pool) (registry : Registry) (now : Nat) (limited : 0 < s.options.throughput)
    (unbounded : s.options.maxPending = 0) (events : List Event) :
    let r := (start s pool registry now).after s events
    r.Smooth → ∃ n, let r' := r.after s (List.replicate n .resume)
      r'.mainReady = false ∧ r'.now = r.now ∧ r'.Smooth := by
  intro r smooth
  generalize bound : r.main.stepsLeft (r.left s) r.now = b
  induction b using Nat.strongRecOn generalizing events with
  | _ b ih =>
    by_cases ready : r.mainReady = true
    case neg => exact ⟨0, Bool.eq_false_iff.2 ready, rfl, smooth⟩
    have timed : Timed s now r := .after s pool registry now limited unbounded events
    have none : r.context.fatal.first = none := smooth.first_none (Signal.after s pool registry now events)
    have fewer := (timed.kept smooth).stepsLeft_resume timed.started timed.wide none ready
    have next : (start s pool registry now).after s (events ++ [.resume]) = r.resume s := after_append ..
    obtain ⟨n, settled, moment, smooth'⟩ := ih _ (bound ▸ fewer) (events ++ [.resume])
      (by rw [next]; exact smooth.resume none) (by rw [next, now_resume])
    rw [next] at settled moment smooth'
    exact ⟨n + 1, settled, moment.trans now_resume, smooth'⟩

/-! ## The timetable in closed form -/

/-- **What is allowed at the last look has been admitted, all of it and no more**, wherever the loop has no step left
to take. -/
theorem Timed.admitted {s : Setup} {first : Nat} {r : Run} (h : Timed s first r) (smooth : r.Smooth)
    (none : r.context.fatal.first = none) (settled : r.mainReady = false) :
    r.context.counters.nextIndex =
      s.options.capped (s.options.allowance (pollInterval * ((r.now - first) / pollInterval))) := by
  cases h.kept smooth with
  | admitting j main => simp [Run.mainReady, main, none] at settled
  | waiting j main since till used short =>
    have early : r.now < first + pollInterval * (j + 1) := by simpa [Run.mainReady, main, none] using settled
    have look : (r.now - first) / pollInterval = j := by
      simp only [pollInterval] at since early ⊢
      omega
    rw [look, ← used, Options.capped]
    split
    · rfl
    · have := short (by omega)
      omega
  | full j main since counted reached within =>
    have look : j ≤ (r.now - first) / pollInterval := by
      simp only [pollInterval] at since ⊢
      omega
    have grown := s.options.allowance_mono (Nat.mul_le_mul_left pollInterval look)
    rw [Options.capped, if_neg (by omega)]
    omega

/-- **Admissions keep to the timetable**, after any events in any order, as long as no dispatch failed and nothing fatal
was raised. With no limit on what is pending, the loop comes to its end at every moment `t`, counted from the start;
and wherever it has no step left to take, the admitted dispatches are exactly the first so many that were allowed at the
last look, or as many as the count says. What is allowed is the throughput for each of the slots that had begun by then,
as long as a word can count them. -/
theorem admitted_on_schedule (s : Setup) (pool : Pool) (registry : Registry) (now : Nat) (events : List Event)
    (limited : 0 < s.options.throughput) (lasts : 0 < s.options.slot) (unbounded : s.options.maxPending = 0) :
    let start := Run.start s pool registry now
    let r := start.after s events
    let t := r.now - now
    let look := 100 * (t / 100)
    let admitted := ((start.trace s events).filterMap Action.admission?).length
    r.context.stats.failed = 0 → r.context.fatal.count = 0 →
      (r.mainReady = false →
        (start.trace s events).filterMap Action.admission? = List.range admitted ∧
          admitted = r.context.counters.nextIndex ∧
          admitted = s.options.capped (s.options.throughput * slotsBegun look s.options.slot) ∧
          (look / s.options.slot < word64Max →
            admitted = s.options.capped (s.options.throughput * (look / s.options.slot + 1)))) ∧
      ∃ n, let r' := r.after s (List.replicate n .resume)
        r'.mainReady = false ∧ r'.now = r.now ∧ r'.context.stats.failed = 0 ∧ r'.context.fatal.count = 0 := by
  intro start r t look admitted failed raised
  have smooth : r.Smooth := ⟨failed, raised⟩
  have none : r.context.fatal.first = none := smooth.first_none (Signal.after s pool registry now events)
  have timed : Timed s now r := .after s pool registry now limited unbounded events
  have numbered := (Ledger.after s pool registry now events).indices
  have counted : admitted = r.context.counters.nextIndex := by
    show List.length _ = _
    rw [numbered, List.length_range]
  refine ⟨fun settled => ?_, ?_⟩
  · have scheduled : admitted = s.options.capped (s.options.throughput * slotsBegun look s.options.slot) :=
      counted.trans (timed.admitted smooth none settled)
    refine ⟨counted ▸ numbered, counted, scheduled, fun fits => ?_⟩
    rw [scheduled, slotsBegun_eq lasts fits]
  · obtain ⟨n, settled, moment, smooth'⟩ := Run.settles s pool registry now limited unbounded events smooth
    exact ⟨n, settled, moment, smooth'.failed, smooth'.raised⟩

/-- Three dispatches, two in each slot of 150 milliseconds: the second slot begins between two looks, and 200
milliseconds after the start one of its two admissions is left. -/
theorem admitted_on_schedule_between_looks :
    let s : Setup := ⟨{ Options.standard with count := 3, throughput := 2, slot := 150, maxPending := 0 },
      .transfer none 0 false, ⟨0, 0⟩, .direct, [], fun _ => ⟨0, 0, 0⟩⟩
    let registry : Registry := ⟨.ofKey ⟨1, by decide, by decide⟩ 1, #[.ofKey ⟨2, by decide, by decide⟩ 1], 0⟩
    let start := Run.start s ⟨1, [0], 0⟩ registry 7
    let events : List Event := [.resume, .resume, .begin 0, .begin 1, .pass 107, .resume, .pass 207, .resume, .resume]
    let early := start.after s (events.take 7)
    let late := start.after s events
    0 < s.options.throughput ∧ 0 < s.options.slot ∧ s.options.maxPending = 0 ∧
      early.now = 207 ∧ early.mainReady = true ∧ early.context.counters.nextIndex = 2 ∧
      late.now = 207 ∧ late.mainReady = false ∧ late.context.stats.failed = 0 ∧ late.context.fatal.count = 0 ∧
      ((start.trace s events).filterMap Action.admission?).length = s.options.capped (2 * (200 / 150 + 1)) := by
  intro s registry start events early late
  have limited : 0 < s.options.throughput := by decide
  have lasts : 0 < s.options.slot := by decide
  -- spelled out, as the theorem has it: the unifier would otherwise run the events to compare
  have moment : ((Run.start s ⟨1, [0], 0⟩ registry 7).after s events).now = 207 := by decide +kernel
  have settled : ((Run.start s ⟨1, [0], 0⟩ registry 7).after s events).mainReady = false := by decide +kernel
  have failed : ((Run.start s ⟨1, [0], 0⟩ registry 7).after s events).context.stats.failed = 0 := by decide +kernel
  have raised : ((Run.start s ⟨1, [0], 0⟩ registry 7).after s events).context.fatal.count = 0 := by decide +kernel
  have kept := (admitted_on_schedule s ⟨1, [0], 0⟩ registry 7 events limited lasts rfl failed raised).1
  obtain ⟨-, -, -, closed⟩ := kept settled
  have elapsed : 100 * ((((Run.start s ⟨1, [0], 0⟩ registry 7).after s events).now - 7) / 100) = 200 := by
    rw [moment]
  have closed := closed (by rw [elapsed]; decide)
  rw [elapsed] at closed
  exact ⟨limited, lasts, rfl, by decide +kernel, by decide +kernel, by decide +kernel, by decide +kernel,
    by decide +kernel, by decide +kernel, by decide +kernel, closed⟩

end TxLoad.Dispatch
