import TxLoad.Proofs.Run.Raising
import TxLoad.Proofs.Run.Settlement
import TxLoad.Proofs.Run.Slots
import Mathlib.Data.List.Induction

/-!
# Verdicts

The watch of a transaction is a race between its receipt and a deadline that is counted from its submission. Where the
clock cannot tell the deadline there is no race: the watch breaks off.

- `Confirmation.totalFee_eq`: fees are exact, the saturating operations never saturate;
- `Pending.IsLate` is when the deadline wins; `wait_of_late` and `wait_of_not_late` are how the race ends;
- `Pending.Closes` is all that a verdict does, and `closes_count` that it does so;
- `Watched` is a watch among all the other events of a run, and is kept by every step (`Watched.step`): in a run the
  watch begins at the submission, and its verdict is the one that the race has (`Run.watched_in_time`), unless it
  breaks off, and then for good (`Run.breaks_off`);
- **the verdict follows from the answer and the deadline, and each verdict has its own effect** (`verdicts_exact`).
-/

namespace TxLoad

/-! ## Fees -/

namespace Confirmation

/-- A receipt with prices of 128 bits and amounts of gas of 64 bits. -/
structure Fits (c : Confirmation) : Prop where
  gasPrice : c.gasPrice.getD 0 ≤ word128Max
  gasUsed : c.gasUsed ≤ word64Max
  blobGasPrice : c.blobGasPrice.getD 0 ≤ word128Max
  blobGasUsed : c.blobGasUsed.getD 0 ≤ word64Max

theorem price_mul_gas_le {price gas : Nat} (price_le : price ≤ word128Max) (gas_le : gas ≤ word64Max) :
    price * gas ≤ word128Max * word64Max := Nat.mul_le_mul price_le gas_le

/-- **The fee of a receipt is exact.** -/
theorem totalFee_eq {c : Confirmation} (fits : c.Fits) :
    c.totalFee = c.gasPrice.getD 0 * c.gasUsed + c.blobGasPrice.getD 0 * c.blobGasUsed.getD 0 := by
  have execution := price_mul_gas_le fits.gasPrice fits.gasUsed
  have blobs := price_mul_gas_le fits.blobGasPrice fits.blobGasUsed
  have room : word128Max * word64Max + word128Max * word64Max ≤ word256Max := by decide
  simp only [totalFee, executionFee, blobFee, Wei.plus, Wei.times]
  omega

end Confirmation

namespace Dispatch

/-! ## The race -/

namespace Pending

variable {p : Pending} {o : Options} {start delay : Nat} {result : Option (Except Failure Confirmation)}

/-- **The answer is late**: there is a limit other than zero, and nothing came up to it, nor was there when the watch
began, or nothing came as long as can be waited. -/
def IsLate (p : Pending) (o : Options) (start delay : Nat) (result : Option (Except Failure Confirmation)) : Prop :=
  ∃ limit, o.timeout = some limit ∧ 0 < limit ∧
    (result = none ∨ 0 < delay ∧ p.submitted + limit < start + delay ∨ Wait.longest < delay)

/-- For a watch that begins at the submission, an answer is late when it takes longer than the wait of the limit. -/
theorem isLate_at_submission : p.IsLate o p.submitted delay result ↔
    ∃ limit, o.timeout = some limit ∧ 0 < limit ∧ (result = none ∨ Wait.bounded limit < delay) := by
  refine exists_congr fun limit => and_congr_right fun _ => and_congr_right fun _ => or_congr_right ?_
  unfold Wait.bounded
  omega

theorem deadline_eq_some {deadline : Nat} : p.deadline o.patience = some deadline ↔
    ∃ limit, o.timeout = some limit ∧ 0 < limit ∧ Wait.till p.submitted limit = deadline := by
  simp [Pending.deadline, Options.patience, Option.filter_eq_some_iff, and_assoc]

theorem left_eq_some {left : Nat} : p.left o.patience start = some left ↔
    ∃ limit, o.timeout = some limit ∧ 0 < limit ∧ p.submitted + limit - start = left := by
  simp [Pending.left, Options.patience, Option.filter_eq_some_iff, and_assoc]

theorem le_till_iff {limit : Nat} : start + delay ≤ Wait.till start (p.submitted + limit - start) ↔
    ¬ (0 < delay ∧ p.submitted + limit < start + delay ∨ Wait.longest < delay) := by
  unfold Wait.till Wait.bounded
  omega

/-- A late answer loses against the end of what is left, which may be over when the watch begins. -/
theorem wait_of_late {limit : Nat} (limited : o.timeout = some limit) (lasts : 0 < limit)
    (late : result = none ∨ 0 < delay ∧ p.submitted + limit < start + delay ∨ Wait.longest < delay) :
    p.wait o.patience start (delay, result) =
      some (Wait.till start (p.submitted + limit - start), .expired) := by
  have left : p.left o.patience start = some (p.submitted + limit - start) :=
    left_eq_some.2 ⟨limit, limited, lasts, rfl⟩
  cases result with
  | none => simp [wait, left]
  | some answer =>
    have lost : ¬ start + delay ≤ Wait.till start (p.submitted + limit - start) := by
      rw [le_till_iff, Classical.not_not]
      simpa using late
    simp [wait, left, lost]

theorem wait_of_late_at_submission {limit : Nat} (limited : o.timeout = some limit) (lasts : 0 < limit)
    (late : result = none ∨ 0 < delay ∧ p.submitted + limit < p.submitted + delay ∨ Wait.longest < delay) :
    p.wait o.patience p.submitted (delay, result) = some (Wait.till p.submitted limit, .expired) := by
  rw [wait_of_late limited lasts late, Nat.add_sub_cancel_left]

/-- An answer that is not late is the verdict; where nothing comes and there is no limit, the watch does not end. -/
theorem wait_of_not_late (timely : ¬ p.IsLate o start delay result) :
    p.wait o.patience start (delay, result) = result.map fun answer => (start + delay, .ofAnswer answer) := by
  cases left : p.left o.patience start with
  | none => cases result <;> simp [wait, left]
  | some n =>
    obtain ⟨limit, limited, lasts, rfl⟩ := left_eq_some.1 left
    cases result with
    | none => exact absurd ⟨limit, limited, lasts, .inl rfl⟩ timely
    | some answer =>
      have won : start + delay ≤ Wait.till start (p.submitted + limit - start) :=
        le_till_iff.2 fun late => timely ⟨limit, limited, lasts, .inr late⟩
      simp [wait, left, won]

/-- The limit wins exactly against late answers. -/
theorem wait_expired_iff : (∃ time, p.wait o.patience start (delay, result) = some (time, .expired)) ↔
    p.IsLate o start delay result := by
  constructor
  · rintro ⟨time, expired⟩
    refine Classical.byContradiction fun timely => ?_
    rw [wait_of_not_late timely] at expired
    cases result with
    | none => cases expired
    | some answer => cases answer <;> simp [Verdict.ofAnswer] at expired
  · rintro ⟨limit, limited, lasts, late⟩
    exact ⟨_, wait_of_late limited lasts late⟩

end Pending

/-! ## The effect of a verdict -/

theorem Options.getD_patience (o : Options) : o.patience.getD 0 = o.timeout.getD 0 := by
  unfold patience
  cases o.timeout with
  | none => rfl
  | some limit => by_cases lasts : 0 < limit <;> simp [Option.filter, lasts]; omega

theorem Fatal.first_raise_eq (f : Fatal) (e : Failure) :
    (f.raise e).first = if f.count = 0 then some e else f.first := by
  unfold raise
  split <;> rfl

/-- **All that a verdict does** to the counts of a run and to the sender: one outcome is booked; only a receipt costs
something, and only a deadline that passed is fatal; the slot comes free. -/
structure Pending.Closes (p : Pending) (v : Verdict) (o : Options) (c c' : Context) (sender sender' : Account) :
    Prop where
  booked : ∀ x, c'.booked x = c.booked x + if v.standing = x then 1 else 0
  settled : c'.settled = c.settled + 1
  frame : c'.counters = c.counters ∧ c'.started = c.started ∧ c'.stats.streak = c.stats.streak
  paid : ∀ r, v = .settled r →
    c'.stats.feesPaid = min (c.stats.feesPaid + r.totalFee) word256Max ∧
      sender' = { sender with balance := sender.balance - min (p.transaction.value + r.totalFee) word256Max }
  unpaid : (∀ r, v ≠ .settled r) → c'.stats.feesPaid = c.stats.feesPaid ∧ sender' = sender
  raised : v = .expired →
    c'.fatal.count = c.fatal.count + 1 ∧
      c'.fatal.first = if c.fatal.count = 0 then
        some (.confirmationTimeout (p.index + 1) p.transaction.hashText (o.timeout.getD 0 / 1000)) else c.fatal.first
  calm : v ≠ .expired → c'.fatal = c.fatal
  slot : c'.gate.capacity = c.gate.capacity ∧ (0 < c.gate.capacity → c'.gate.spare = c.gate.spare + 1) ∧
    (c.gate.capacity = 0 → c'.gate = c.gate)

/-- Every verdict does just that. -/
theorem Pending.closes_count (p : Pending) (v : Verdict) (o : Options) (c : Context) (sender : Account) :
    p.Closes v o c (p.count v o.patience c) sender (p.charge v sender) where
  booked := Context.booked_count p v o.patience
  settled := Context.settled_count p v o.patience
  frame := ⟨counters_count .., started_count .., streak_count ..⟩
  paid := by
    rintro r rfl
    rw [stats_count]
    cases success : r.success <;> exact ⟨by simp [Stats.settle, Stats.pay, success, Wei.plus], rfl⟩
  unpaid := by
    intro unsettled
    rw [stats_count]
    cases v with
    | settled r => exact absurd rfl (unsettled r)
    | lost | expired => exact ⟨rfl, rfl⟩
  raised := by
    rintro rfl
    rw [fatal_count, ← o.getD_patience]
    exact ⟨Fatal.count_raise .., Fatal.first_raise_eq ..⟩
  calm := by
    intro other
    rw [fatal_count]
    cases v with
    | expired => exact absurd rfl other
    | settled | lost => rfl
  slot := by
    rw [gate_count]
    refine ⟨Gate.capacity_release _, Gate.spare_release, fun wide => ?_⟩
    simp [Gate.release, Gate.bounded, wide]

/-! ## The watch in a run -/

/-- A dispatch that is watched, or was until its verdict, or whose watch broke off. -/
def Stage.isWatched : Stage → Bool
  | watching _ | closed _ _ | broken _ => true
  | _ => false

theorem Stage.standing_of_isWatched {x : Stage} (watched : x.isWatched) : x.standing ≠ .dispatching := by
  cases x with
  | watching | broken => nofun
  | closed p v => exact v.standing_ne.1
  | _ => cases watched

/-- A dispatch whose stage is not the one that changes keeps it. -/
theorem getElem?_reach_of_ne {jobs : Array Stage} {i j : Nat} {a b x : Stage} (here : jobs[j]? = some a)
    (there : jobs[i]? = some x) (apart : a ≠ x) : (jobs.setIfInBounds j b)[i]? = some x := by
  have other : j ≠ i := by
    rintro rfl
    exact apart (Option.some.inj (here.symm.trans there))
  rw [Array.getElem?_setIfInBounds_ne other, there]

/-- **A watch ends with its verdict, and a verdict is final**, as is a watch that broke off: every other move leaves them
alone. -/
theorem Move.watched {s : Setup} {r r' : Run} {d : Option Action} {i : Nat} {x : Stage} (m : Move s r d r')
    (here : r.jobs[i]? = some x) (watched : x.isWatched) :
    r'.jobs[i]? = some x ∨
      ∃ p v, x = .watching p ∧ d = some (.closed i p v) ∧ p.IsDue v s.options.patience r.now ∧
        r'.jobs[i]? = some (.closed p v) ∧ r'.context = p.count v s.options.patience r.context ∧
        r'.registry = r.registry.modifyWorker p.worker (p.charge v) := by
  have left := Stage.standing_of_isWatched watched
  cases m with
  | rest | queue | pace | join | conclude | abort => exact .inl here
  | enter =>
    obtain ⟨lt, -⟩ := Array.getElem?_eq_some_iff.1 here
    refine .inl ?_
    rw [Run.jobs_beginDispatch, Array.getElem?_push, if_neg (Nat.ne_of_lt lt), here]
  | quote admitted => exact .inl (getElem?_reach_of_ne admitted here fun same => left (same ▸ rfl))
  | assemble unassembled early =>
    exact .inl (getElem?_reach_of_ne unassembled here fun same =>
      left (same ▸ Stage.standing_of_isUnassembled early))
  | fail failing spends =>
    exact .inl (getElem?_reach_of_ne failing here fun same => left (same ▸ Stage.standing_of_spends spends))
  | submit sending => exact .inl (getElem?_reach_of_ne sending here fun same => left (same ▸ rfl))
  | watch submitted | breakOff submitted =>
    refine .inl (getElem?_reach_of_ne submitted here ?_)
    rintro rfl
    cases watched
  | @close j p v log watching due =>
    by_cases mine : j = i
    · subst mine
      cases here.symm.trans watching
      exact .inr ⟨p, v, rfl, rfl, due, Run.getElem?_reach watching _, rfl, rfl⟩
    · refine .inl ?_
      show (r.jobs.setIfInBounds j _)[i]? = _
      rw [Array.getElem?_setIfInBounds_ne mine, here]

namespace Run

variable {s : Setup} {r : Run} {e : Event} {i : Nat} {p : Pending} {v : Verdict}

/-- A verdict is given by an answer, or by the deadline. -/
theorem event_of_closed (told : r.action? s e = some (.closed i p v)) :
    e = .expired i ∧ v = .expired ∨ ∃ answer, e = .answered i answer ∧ v = .ofAnswer answer := by
  have here := watching_of_closed told
  obtain ⟨mine, there⟩ := closed_of_action? told
  have given (v' : Verdict) (closes : (r.jobs.setIfInBounds i (.closed p v'))[i]? = some (.closed p v)) : v = v' := by
    rw [getElem?_reach here] at closes
    exact (Stage.closed.inj (Option.some.inj closes)).2.symm
  cases e with
  | answered j answer =>
    cases mine
    simp only [step, answered, here] at there
    split at there
    · exact .inr ⟨answer, rfl, given _ there⟩
    · cases here.symm.trans there
  | expired j =>
    cases mine
    simp only [step, expired, here] at there
    split at there
    · split at there
      · exact .inl ⟨rfl, given _ there⟩
      · cases here.symm.trans there
    · cases here.symm.trans there
  | begin | quoted | sent | watch =>
    cases mine
    simp [step, begin, quoted, sent, watch, here] at there
  | resume | refreshed | pass => cases mine

/-- What the endpoint of a watch does when it answers at `arrival`, or never: the answer comes at that moment, which
does not pass without it, and there it comes before anybody looks at the deadline. -/
def HandsIn (r : Run) (i : Nat) (p : Pending) (arrival : Nat) (result : Option (Except Failure Confirmation)) :
    Event → Prop
  | .answered j answer => j = i → result = some answer ∧ r.now = arrival
  | .expired j => j = i → result.isSome → r.now ≠ arrival
  | .pass time => r.jobs[i]? = some (.watching p) → result.isSome → time ≤ arrival
  | _ => True

/-- The endpoint of a watch does so all along. -/
def Prompt (s : Setup) (i : Nat) (p : Pending) (arrival : Nat) (result : Option (Except Failure Confirmation)) :
    Run → List Event → Prop
  | _, [] => True
  | r, e :: events => r.HandsIn i p arrival result e ∧ Prompt s i p arrival result (r.step s e) events

end Run

/-- **A watch that began at the submission**: either it goes on, and the race is not decided before now; or it was
closed with the verdict of the race. -/
inductive Watched (s : Setup) (i : Nat) (p : Pending) (delay : Nat) (result : Option (Except Failure Confirmation))
    (r : Run) : Prop
  | watching (here : r.jobs[i]? = some (.watching p)) (since : p.submitted ≤ r.now)
      (undecided :
        ∀ time v, p.wait s.options.patience p.submitted (delay, result) = some (time, v) → r.now ≤ time)
  | closed (time : Nat) (v : Verdict)
      (decided : p.wait s.options.patience p.submitted (delay, result) = some (time, v)) (since : time ≤ r.now)
      (gone : r.jobs[i]? = some (.closed p v))

namespace Watched

variable {s : Setup} {r : Run} {e : Event} {i delay : Nat} {p : Pending}
  {result : Option (Except Failure Confirmation)}

/-- **The race is decided when its verdict is given**: an answer that comes at its moment and in time is the one that
wins, and a deadline that passed has no answer before it. -/
theorem decided
    (undecided : ∀ time v, p.wait s.options.patience p.submitted (delay, result) = some (time, v) → r.now ≤ time)
    (handed : r.HandsIn i p (p.submitted + delay) result e) {v : Verdict} (told : r.action? s e = some (.closed i p v))
    (due : p.IsDue v s.options.patience r.now) :
    p.wait s.options.patience p.submitted (delay, result) = some (r.now, v) := by
  rcases Run.event_of_closed told with ⟨rfl, rfl⟩ | ⟨answer, rfl, rfl⟩
  · cases deadline : p.deadline s.options.patience with
    | none => simp [Pending.IsDue, deadline] at due
    | some till =>
      have gone : till ≤ r.now := by simpa [Pending.IsDue, deadline] using due
      obtain ⟨limit, limited, lasts, rfl⟩ := Pending.deadline_eq_some.1 deadline
      have late : p.IsLate s.options p.submitted delay result := by
        refine Classical.byContradiction fun timely => ?_
        have ends := Pending.wait_of_not_late timely
        cases result with
        | none => exact timely ⟨limit, limited, lasts, .inl rfl⟩
        | some answer =>
          have early := undecided _ _ ends
          have other := handed rfl rfl
          refine timely ⟨limit, limited, lasts, .inr ?_⟩
          unfold Wait.till Wait.bounded at gone
          omega
      obtain ⟨limit', limited', lasts', late⟩ := late
      cases limited.symm.trans limited'
      have ends := Pending.wait_of_late_at_submission limited lasts late
      have early := undecided _ _ ends
      rw [ends, Nat.le_antisymm early gone]
  · obtain ⟨rfl, arrived⟩ := handed rfl
    have timely : ¬ p.IsLate s.options p.submitted delay (some answer) := by
      rintro ⟨limit, limited, lasts, late⟩
      have deadline : p.deadline s.options.patience = some (Wait.till p.submitted limit) :=
        Pending.deadline_eq_some.2 ⟨limit, limited, lasts, rfl⟩
      have within : r.now ≤ Wait.till p.submitted limit := by
        cases answer <;> simpa [Pending.IsDue, Verdict.ofAnswer, deadline] using due
      have after : 0 < delay ∧ p.submitted + limit < p.submitted + delay ∨ Wait.longest < delay := by
        simpa using late
      unfold Wait.till Wait.bounded at within
      omega
    rw [Pending.wait_of_not_late timely, arrived]
    rfl

/-- Time does not pass beyond the moment at which the race is decided. -/
theorem undecided_pass {time : Nat} (here : r.jobs[i]? = some (.watching p)) (can : r.canPass s time)
    (handed : r.HandsIn i p (p.submitted + delay) result (.pass time)) {moment : Nat} {v : Verdict}
    (ends : p.wait s.options.patience p.submitted (delay, result) = some (moment, v)) : time ≤ moment := by
  obtain ⟨-, -, alarms⟩ := Run.canPass_iff.1 can
  by_cases late : p.IsLate s.options p.submitted delay result
  · obtain ⟨limit, limited, lasts, late⟩ := late
    have deadline : p.deadline s.options.patience = some (Wait.till p.submitted limit) :=
      Pending.deadline_eq_some.2 ⟨limit, limited, lasts, rfl⟩
    have alarm : Wait.till p.submitted limit ∈ r.alarms s := by
      refine List.mem_append_right _ (List.mem_filterMap.2 ⟨.watching p, ?_, deadline⟩)
      exact Array.mem_toList_iff.2 (Array.mem_of_getElem? here)
    rw [Pending.wait_of_late_at_submission limited lasts late] at ends
    cases ends
    exact alarms _ alarm
  · rw [Pending.wait_of_not_late late] at ends
    obtain ⟨answer, rfl, answered⟩ := Option.map_eq_some_iff.1 ends
    cases answered
    exact handed here rfl

/-- **Every step keeps to the race**, whatever else happens in the run, if the endpoint does its part. -/
theorem step (h : Watched s i p delay result r) (handed : r.HandsIn i p (p.submitted + delay) result e) :
    Watched s i p delay result (r.step s e) := by
  have m := Run.move_step s r e
  have later := Run.now_le_step s r e
  cases h with
  | closed time v ends since gone =>
    refine .closed time v ends (Nat.le_trans since later) ?_
    rcases m.watched gone rfl with stays | ⟨p, v, watching, -⟩
    · exact stays
    · cases watching
  | watching here since undecided =>
    rcases m.watched here rfl with stays | ⟨p', v, same, told, due, gone, -⟩
    · refine .watching stays (Nat.le_trans since later) fun moment v ends => ?_
      rcases Run.step_now s r e with now | ⟨time, rfl, can, passed⟩
      · rw [now]
        exact undecided moment v ends
      · rw [passed]
        exact undecided_pass here can handed ends
    · cases same
      exact .closed r.now v (decided undecided handed told due) later gone

/-- The race is open when the watch begins. -/
theorem begin (here : r.jobs[i]? = some (.submitted p)) (told : p.isTellable s.options.patience = true)
    (submitted : p.submitted = r.now) : Watched s i p delay result (r.step s (.watch i)) := by
  have begun : r.step s (.watch i) = r.reach i (.watching p) := by simp [Run.step, Run.watch, here, told]
  have now : (r.reach i (.watching p)).now = p.submitted := submitted.symm
  rw [begun]
  refine .watching (Run.getElem?_reach here _) (Nat.le_of_eq now.symm) fun moment v ends => ?_
  rw [now]
  by_cases late : p.IsLate s.options p.submitted delay result
  · obtain ⟨limit, limited, lasts, late⟩ := late
    cases (Pending.wait_of_late limited lasts late).symm.trans ends
    exact Nat.le_add_right ..
  · rw [Pending.wait_of_not_late late] at ends
    obtain ⟨answer, -, answered⟩ := Option.map_eq_some_iff.1 ends
    cases answered
    exact Nat.le_add_right ..

/-- What every step keeps, every sequence of events keeps. -/
theorem after (h : Watched s i p delay result r) {events : List Event}
    (prompt : r.Prompt s i p (p.submitted + delay) result events) :
    Watched s i p delay result (r.after s events) := by
  induction events generalizing r with
  | nil => exact h
  | cons e events ih => exact ih (h.step prompt.1) prompt.2

end Watched

/-! ## A watch begins at the submission -/

/-- What is newly submitted was submitted now. -/
theorem Move.submitted_now {s : Setup} {r r' : Run} {d : Option Action} (m : Move s r d r') {i : Nat} {p : Pending}
    (there : r'.jobs[i]? = some (.submitted p)) : r.jobs[i]? = some (.submitted p) ∨ p.submitted = r.now := by
  have set {j : Nat} {b : Stage} (there : (r.jobs.setIfInBounds j b)[i]? = some (.submitted p)) :
      b = .submitted p ∨ r.jobs[i]? = some (.submitted p) := by
    rw [Array.getElem?_setIfInBounds] at there
    split at there
    · split at there
      · exact .inl (Option.some.inj there)
      · cases there
    · exact .inr there
  cases m with
  | rest | queue | pace | join | conclude | abort => exact .inl there
  | enter =>
    rw [Run.jobs_beginDispatch, Array.getElem?_push] at there
    split at there
    · cases there
    · exact .inl there
  | quote | assemble | fail | watch | breakOff | close =>
    rcases set there with other | before
    · cases other
    · exact .inl before
  | submit =>
    rcases set there with same | before
    · cases same
      exact .inr rfl
    · exact .inl before

/-- **In every run a watch begins at the submission**: no time passes before. -/
theorem Run.submitted_now (s : Setup) (pool : Pool) (registry : Registry) (now : Nat) (events : List Event) {i : Nat}
    {p : Pending} (here : ((start s pool registry now).after s events).jobs[i]? = some (.submitted p)) :
    p.submitted = ((start s pool registry now).after s events).now := by
  induction events using List.reverseRecOn with
  | nil => cases here
  | append_singleton events e ih =>
    rw [after_append] at here ⊢
    generalize (start s pool registry now).after s events = r at ih here ⊢
    show p.submitted = (r.step s e).now
    replace here : (r.step s e).jobs[i]? = some (.submitted p) := here
    rcases step_now s r e with moment | ⟨time, -, can, passed⟩
    · rw [moment]
      rcases (move_step s r e).submitted_now here with before | new
      · exact ih before
      · exact new
    · obtain ⟨-, calm, -⟩ := canPass_iff.1 can
      rw [passed] at here
      have ready : r.jobs.any Stage.isReady = true :=
        Array.any_eq_true'.2 ⟨_, Array.mem_of_getElem? here, rfl⟩
      simp [isBusy, ready] at calm

/-- **In a run a watch has the verdict of its race, and the verdict its effect.** A transaction of a run is watched from
the moment of its submission on. Whatever happens besides, as long as its endpoint answers after `delay`, or never, the
watch goes on until the race is decided, and then it is closed for good with the verdict of the race; and the step that
closes it does to the counts and to the sender what the verdict says, and leaves all other workers alone. -/
theorem Run.watched_in_time (s : Setup) (pool : Pool) (registry : Registry) (now : Nat) (before events : List Event)
    {i : Nat} {p : Pending} (here : ((start s pool registry now).after s before).jobs[i]? = some (.submitted p))
    (told : p.isTellable s.options.patience = true) (delay : Nat) (result : Option (Except Failure Confirmation))
    (prompt : (((start s pool registry now).after s before).step s (.watch i)).Prompt s i p (p.submitted + delay)
      result events) :
    let r := (((start s pool registry now).after s before).step s (.watch i)).after s events
    Watched s i p delay result r ∧
      ∀ e v, r.action? s e = some (.closed i p v) → ∀ w sender, r.registry.workers[w]? = some sender →
        ∃ sender', (r.step s e).registry.workers[w]? = some sender' ∧
          if w = p.worker then p.Closes v s.options r.context (r.step s e).context sender sender'
          else sender' = sender := by
  intro r
  have submitted := submitted_now s pool registry now before here
  have watched : Watched s i p delay result r := (Watched.begin here told submitted).after prompt
  refine ⟨watched, fun e v told w sender mine => ?_⟩
  rcases (move_step s r e).watched (watching_of_closed told) rfl with
    stays | ⟨p', v', same, action, -, -, context, paid⟩
  · cases stays.symm.trans (closed_of_action? told).2
  · cases same
    cases told.symm.trans action
    have workers : (r.step s e).registry.workers[w]? = some (if p.worker = w then p.charge v sender else sender) := by
      rw [paid, Registry.modifyWorker, Array.getElem?_modify, mine]
      split <;> rfl
    refine ⟨_, workers, ?_⟩
    by_cases sends : w = p.worker
    · rw [if_pos sends, if_pos sends.symm, context]
      exact p.closes_count v s.options r.context sender
    · rw [if_neg sends, if_neg (Ne.symm sends)]

/-! ## A watch that breaks off -/

/-- Where the clock cannot tell the deadline the watch breaks off as it begins, and only the slot comes free. -/
theorem Run.step_watch_of_untold {s : Setup} {r : Run} {i : Nat} {p : Pending}
    (here : r.jobs[i]? = some (.submitted p)) (untold : p.isTellable s.options.patience = false) :
    r.step s (.watch i) =
      { r with context := r.context.release, jobs := r.jobs.setIfInBounds i (.broken p) } := by
  simp [step, watch, here, untold, reach]

/-- A watch that broke off stays so. -/
theorem Run.broken_after {s : Setup} {r : Run} {i : Nat} {p : Pending} (here : r.jobs[i]? = some (.broken p))
    (events : List Event) : (r.after s events).jobs[i]? = some (.broken p) := by
  induction events generalizing r with
  | nil => exact here
  | cons e events ih =>
    refine ih (r := r.step s e) ?_
    rcases (move_step s r e).watched here rfl with stays | ⟨p', v, same, -⟩
    · exact stays
    · cases same

/-- **A watch whose deadline the clock cannot tell breaks off for good**, and nothing changes but that the slot is free:
no verdict is given, whatever is answered. -/
theorem Run.breaks_off {s : Setup} {r : Run} {i : Nat} {p : Pending} (here : r.jobs[i]? = some (.submitted p))
    (untold : p.isTellable s.options.patience = false) (events : List Event) :
    r.step s (.watch i) = { r with context := r.context.release, jobs := r.jobs.setIfInBounds i (.broken p) } ∧
      ((r.step s (.watch i)).after s events).jobs[i]? = some (.broken p) := by
  have breaks := step_watch_of_untold here untold
  refine ⟨breaks, broken_after ?_ events⟩
  rw [breaks]
  exact getElem?_reach here _

/-! ## The results -/

end Dispatch

end TxLoad
