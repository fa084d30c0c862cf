import TxLoad.Wallet.Sync
import Mathlib.Data.List.Induction

/-!
# What the reading of all accounts comes to

The events of a reading may come in any order, and some of them cannot happen when they come. Those that do happen are
its execution.

- `Sync.Move` is what an event does that happens (`Happens.move`); any other does nothing (`step_of_not_happens`);
- `Sync.Execution` is a sequence of events that happen, from one state to another. Whatever the events, those that happen make
  up an execution (`exists_execution`);
- `Sync.Course` tells the reading of one account: what the execution says about it, how far it has come, and the account
  itself. **Every account holds what it held before, or both values that were read** (`Execution.course`);
- nothing is said about a worker before the funding account was read (`Execution.workers_waiting`), and the failures of
  workers are remembered in the order in which they came (`Execution.failures`);
- `Sync.Outcome` is what a reading that is over has come to, and there is no other way to end (`Execution.outcome`).
-/

namespace TxLoad.Sync

/-! ## Events -/

namespace Event

/-- The account that an event is about. -/
def holder : Event → Holder
  | begin x | nonce x _ | balance x _ => x

/-- The failure to read a worker, if an event is one. -/
def workerFailure? : Event → Option Failure
  | nonce (.worker _) (.error e) | balance (.worker _) (.error e) => some e
  | _ => none

end Event

/-- What is told about an account. -/
def about (x : Holder) (events : List Event) : List Event := events.filter fun e => e.holder = x

/-- An account was attempted once, and both its values were read. -/
def Reads (events : List Event) (x : Holder) (nonce balance : Nat) : Prop :=
  about x events = [.begin x, .nonce x (.ok nonce), .balance x (.ok balance)]

/-- An account was attempted once, and the first or the second value could not be read. -/
def Fails (events : List Event) (x : Holder) (e : Failure) : Prop :=
  about x events = [.begin x, .nonce x (.error e)] ∨
    ∃ nonce, about x events = [.begin x, .nonce x (.ok nonce), .balance x (.error e)]

variable {s s' : Sync} {x y : Holder} {e : Event} {events execution : List Event} {a b st : Stage}

theorem mem_about : e ∈ about x events ↔ e ∈ events ∧ e.holder = x := by
  unfold about
  rw [List.mem_filter, decide_eq_true_iff]

theorem about_concat (x : Holder) (events : List Event) (e : Event) :
    about x (events ++ [e]) = if e.holder = x then about x events ++ [e] else about x events := by
  unfold about
  rw [List.filter_append]
  by_cases own : e.holder = x <;> simp [own]

/-! ## One event -/

/-- The stages between which an event leads, and what it does to the account. -/
inductive Goes : Event → Stage → Stage → (Account → Account) → Prop
  | begin (x : Holder) : Goes (.begin x) .waiting .nonce id
  | nonce (x : Holder) (n : Nat) : Goes (.nonce x (.ok n)) .nonce (.balance n) id
  | noNonce (x : Holder) (f : Failure) : Goes (.nonce x (.error f)) .nonce (.done (.error f)) id
  | balance (x : Holder) (n b : Nat) : Goes (.balance x (.ok b)) (.balance n) (.done (.ok ())) (·.withState n b)
  | noBalance (x : Holder) (n : Nat) (f : Failure) : Goes (.balance x (.error f)) (.balance n) (.done (.error f)) id

/-- **What an event does that happens**: it leads its account from one stage to another, and leaves all others alone. -/
structure Move (s : Sync) (e : Event) (a b : Stage) (change : Account → Account) (s' : Sync) : Prop where
  goes : Goes e a b change
  here : s.stage? e.holder = some a
  turn : a = .waiting → e.holder = .funding ∨ s.fundingRead
  stage : ∀ y, s'.stage? y = if e.holder = y then some b else s.stage? y
  account : ∀ y, s'.account? y = if e.holder = y then (s.account? y).map change else s.account? y
  failures : s'.failures = s.failures ++ e.workerFailure?.toList
  workers : s'.registry.workers.size = s.registry.workers.size
  cursor : s'.registry.cursor = s.registry.cursor

/-- The stages after an account came to one. -/
theorem stage?_reach (here : s.stage? x = some a) (b : Stage) (y : Holder) :
    (s.reach x b).stage? y = if x = y then some b else s.stage? y := by
  cases x with
  | funding => cases y <;> simp [reach, stage?]
  | worker i =>
    have inside : i < s.workers.size := (Array.getElem?_eq_some_iff.1 here).1
    cases y with
    | funding => simp [reach, stage?]
    | worker j =>
      simp only [reach, stage?, Array.getElem?_setIfInBounds, if_pos inside, Holder.worker.injEq]

@[simp] theorem account?_reach (s : Sync) (x : Holder) (b : Stage) (y : Holder) :
    (s.reach x b).account? y = s.account? y := by
  cases x <;> rfl

@[simp] theorem registry_reach (s : Sync) (x : Holder) (b : Stage) : (s.reach x b).registry = s.registry := by
  cases x <;> rfl

@[simp] theorem failures_reach (s : Sync) (x : Holder) (b : Stage) : (s.reach x b).failures = s.failures := by
  cases x <;> rfl

theorem stage?_fail (s : Sync) (x : Holder) (f : Failure) (y : Holder) :
    (s.fail x f).stage? y = (s.reach x (.done (.error f))).stage? y := by
  cases x <;> cases y <;> rfl

@[simp] theorem account?_fail (s : Sync) (x : Holder) (f : Failure) (y : Holder) :
    (s.fail x f).account? y = s.account? y := by
  cases x <;> rfl

@[simp] theorem registry_fail (s : Sync) (x : Holder) (f : Failure) : (s.fail x f).registry = s.registry := by
  cases x <;> rfl

@[simp] theorem stage?_modify (s : Sync) (x : Holder) (f : Account → Account) (y : Holder) :
    (s.modify x f).stage? y = s.stage? y := by
  cases x <;> rfl

/-- The accounts after one was changed. -/
theorem account?_modify (s : Sync) (x : Holder) (f : Account → Account) (y : Holder) :
    (s.modify x f).account? y = if x = y then (s.account? y).map f else s.account? y := by
  cases x with
  | funding => cases y <;> simp [modify, account?, Registry.modifyFunding]
  | worker i =>
    cases y with
    | funding => simp [modify, account?, Registry.modifyWorker]
    | worker j => simp [modify, account?, Registry.modifyWorker, Array.getElem?_modify]

/-- An event that leads an account to a stage, and does nothing else. -/
theorem move_reach (goes : Goes e a b id) (here : s.stage? e.holder = some a)
    (turn : a = .waiting → e.holder = .funding ∨ s.fundingRead) (calm : e.workerFailure? = none) :
    Move s e a b id (s.reach e.holder b) where
  goes := goes
  here := here
  turn := turn
  stage := stage?_reach here b
  account y := by simp
  failures := by simp [calm]
  workers := by simp
  cursor := by simp

/-- An event that tells that an account cannot be read. -/
theorem move_fail {f : Failure} (goes : Goes e a (.done (.error f)) id) (here : s.stage? e.holder = some a)
    (begun : a ≠ .waiting) : Move s e a (.done (.error f)) id (s.fail e.holder f) where
  goes := goes
  here := here
  turn waiting := absurd waiting begun
  stage y := (stage?_fail s _ f y).trans (stage?_reach here _ y)
  account y := by simp
  failures := by
    cases goes with
    | noNonce x => cases x <;> simp [fail, reach, Event.workerFailure?, Event.holder]
    | noBalance x => cases x <;> simp [fail, reach, Event.workerFailure?, Event.holder]
  workers := by simp
  cursor := by simp

/-- An event that tells the second value of an account. -/
theorem move_set (x : Holder) {n : Nat} (b : Nat) (here : s.stage? x = some (.balance n)) :
    Move s (.balance x (.ok b)) (.balance n) (.done (.ok ())) (·.withState n b) (s.set x n b) := by
  have there : (s.modify x (·.withState n b)).stage? x = some (.balance n) := by rwa [stage?_modify]
  have logged : ∃ log, s.set x n b = { (s.modify x (·.withState n b)).reach x (.done (.ok ())) with log := log } := by
    unfold set
    dsimp only
    split
    · exact ⟨_, rfl⟩
    · exact ⟨_, rfl⟩
  obtain ⟨log, set⟩ := logged
  rw [set]
  refine ⟨.balance x n b, here, nofun, fun y => ?_, fun y => ?_, ?_, ?_, ?_⟩
  · exact (stage?_reach there _ y).trans (by rw [stage?_modify]; rfl)
  · exact (account?_reach _ _ _ y).trans (account?_modify s x _ y)
  · cases x <;> simp [modify, reach, Event.workerFailure?]
  · cases x <;> simp [modify, reach, Registry.modifyWorker, Registry.modifyFunding]
  · cases x <;> rfl

/-- An event suits the stage of its account; a worker may begin if `opened` holds. -/
def Suits (s : Sync) (opened : Prop) : Event → Prop
  | .begin x => s.stage? x = some .waiting ∧ (x = .funding ∨ opened)
  | .nonce x _ => s.stage? x = some .nonce
  | .balance x _ => ∃ n, s.stage? x = some (.balance n)

/-- An event happens when it comes: it suits, and workers may begin when the funding account was read. -/
def Happens (s : Sync) (e : Event) : Prop := s.Suits s.fundingRead e

/-- **An event that happens is a move.** -/
theorem Happens.move (happens : s.Happens e) : ∃ a b change, Move s e a b change (s.step e) := by
  cases e with
  | begin x =>
    obtain ⟨here, turn⟩ := happens
    have step : s.step (.begin x) = s.reach x .nonce := by rw [Sync.step, here]; exact if_pos turn
    exact ⟨_, _, _, step ▸ move_reach (.begin x) here (fun _ => turn) rfl⟩
  | nonce x answer =>
    have here : s.stage? x = some .nonce := happens
    cases answer with
    | ok n =>
      have step : s.step (.nonce x (.ok n)) = s.reach x (.balance n) := by simp only [Sync.step, here]
      exact ⟨_, _, _, step ▸ move_reach (.nonce x n) here nofun (by cases x <;> rfl)⟩
    | error f =>
      have step : s.step (.nonce x (.error f)) = s.fail x f := by simp only [Sync.step, here]
      exact ⟨_, _, _, step ▸ move_fail (.noNonce x f) here nofun⟩
  | balance x answer =>
    obtain ⟨n, here⟩ := happens
    cases answer with
    | ok b =>
      have step : s.step (.balance x (.ok b)) = s.set x n b := by simp only [Sync.step, here]
      exact ⟨_, _, _, step ▸ move_set x b here⟩
    | error f =>
      have step : s.step (.balance x (.error f)) = s.fail x f := by simp only [Sync.step, here]
      exact ⟨_, _, _, step ▸ move_fail (.noBalance x n f) here nofun⟩

/-- An event that does not happen changes nothing. -/
theorem step_of_not_happens (unfit : ¬s.Happens e) : s.step e = s := by
  cases e with
  | begin x =>
    unfold step
    dsimp only
    split
    · next here => exact if_neg fun turn => unfit ⟨here, turn⟩
    · rfl
  | nonce x answer =>
    unfold step
    dsimp only
    split
    · next n here => exact absurd here unfit
    · next f here => exact absurd here unfit
    · rfl
  | balance x answer =>
    unfold step
    dsimp only
    split
    · next n b here => exact absurd ⟨n, here⟩ unfit
    · next n f here => exact absurd ⟨n, here⟩ unfit
    · rfl

/-! ## One account -/

/-- The reading of an account that was `old` before: what is told about it, how far it has come, and what the account is
now. -/
inductive Course (x : Holder) (old : Account) : List Event → Stage → Account → Prop
  | waiting : Course x old [] .waiting old
  | begun : Course x old [.begin x] .nonce old
  | halfway (n : Nat) : Course x old [.begin x, .nonce x (.ok n)] (.balance n) old
  | noNonce (f : Failure) : Course x old [.begin x, .nonce x (.error f)] (.done (.error f)) old
  | noBalance (n : Nat) (f : Failure) :
    Course x old [.begin x, .nonce x (.ok n), .balance x (.error f)] (.done (.error f)) old
  | read (n b : Nat) :
    Course x old [.begin x, .nonce x (.ok n), .balance x (.ok b)] (.done (.ok ())) (old.withState n b)

/-- **What happens to an account carries its reading on.** -/
theorem Course.step {old current : Account} {change : Account → Account} (course : Course x old execution a current)
    (goes : Goes e a b change) (own : e.holder = x) : Course x old (execution ++ [e]) b (change current) := by
  cases goes with
  | begin y =>
    obtain rfl : y = x := own
    cases course with
    | waiting => exact .begun
  | nonce y n =>
    obtain rfl : y = x := own
    cases course with
    | begun => exact .halfway n
  | noNonce y f =>
    obtain rfl : y = x := own
    cases course with
    | begun => exact .noNonce f
  | balance y n b =>
    obtain rfl : y = x := own
    cases course with
    | halfway => exact .read n b
  | noBalance y n f =>
    obtain rfl : y = x := own
    cases course with
    | halfway => exact .noBalance n f

/-- **An account is never half of what was read.** -/
theorem Course.whole {old current : Account} (course : Course x old (about x execution) st current) :
    current = old ∨ ∃ n b, Reads execution x n b ∧ current = old.withState n b := by
  generalize told : about x execution = events at course
  cases course with
  | waiting | begun | halfway | noNonce | noBalance => exact .inl rfl
  | read n b => exact .inr ⟨n, b, told, rfl⟩

/-! ## Executions -/

/-- A sequence of events that happen leads from one state to another. -/
inductive Execution (s : Sync) : List Event → Sync → Prop
  | nil : Execution s [] s
  | snoc {past : List Event} {s' : Sync} {e : Event} (led : Execution s past s') (happens : s'.Happens e) :
    Execution s (past ++ [e]) (s'.step e)

/-- The last event happens to the state that the earlier ones left. -/
theorem after_concat (s : Sync) (events : List Event) (e : Event) :
    s.after (events ++ [e]) = (s.after events).step e :=
  List.foldl_append ..

/-- **Whatever the events, those that happen make up an execution.** -/
theorem exists_execution (s : Sync) (events : List Event) : ∃ execution, execution.Sublist events ∧ Execution s execution (s.after events) := by
  induction events using List.reverseRecOn with
  | nil => exact ⟨[], .slnil, .nil⟩
  | append_singleton events e ih =>
    obtain ⟨execution, part, led⟩ := ih
    rw [after_concat]
    by_cases happens : (s.after events).Happens e
    · exact ⟨execution ++ [e], part.append (.refl _), led.snoc happens⟩
    · rw [step_of_not_happens happens]
      exact ⟨execution, part.trans (List.sublist_append_left ..), led⟩

namespace Execution

/-- An execution keeps whatever a move keeps. -/
theorem invariant {P : Sync → Prop} (led : Execution s execution s')
    (kept : ∀ {t t' : Sync} {e a b change}, P t → Move t e a b change t' → P t') (holds : P s) : P s' := by
  induction led with
  | nil => exact holds
  | snoc _ happens ih =>
    obtain ⟨a, b, change, move⟩ := happens.move
    exact kept ih move

/-- The failures of workers are remembered in the order in which they came. -/
theorem failures (led : Execution s execution s') : s'.failures = s.failures ++ execution.filterMap Event.workerFailure? := by
  induction led with
  | nil => simp
  | snoc _ happens ih =>
    obtain ⟨a, b, change, move⟩ := happens.move
    rw [move.failures, ih, List.filterMap_append, ← List.append_assoc]
    rfl

theorem registry (led : Execution s execution s') :
    s'.registry.workers.size = s.registry.workers.size ∧ s'.registry.cursor = s.registry.cursor :=
  led.invariant (P := fun t => t.registry.workers.size = _ ∧ t.registry.cursor = _)
    (fun same move => ⟨move.workers.trans same.1, move.cursor.trans same.2⟩) ⟨rfl, rfl⟩

/-- An account that does not exist is not told about. -/
theorem about_of_none (led : Execution s execution s') (none : s.stage? x = none) :
    about x execution = [] ∧ s'.stage? x = .none := by
  induction led with
  | nil => exact ⟨rfl, none⟩
  | @snoc past t e _ happens ih =>
    obtain ⟨a, b, change, move⟩ := happens.move
    have other : e.holder ≠ x := by
      rintro rfl
      cases move.here.symm.trans ih.2
    rw [about_concat, if_neg other, move.stage, if_neg other]
    exact ih

end Execution

/-! ## From the start -/

section Start

variable {rpc : String} {r : Registry}

/-- Every account waits at the start. -/
theorem stage?_start (rpc : String) (r : Registry) (x : Holder) :
    (start rpc r).stage? x = ((start rpc r).account? x).map fun _ => .waiting := by
  cases x with
  | funding => rfl
  | worker i =>
    show (Array.replicate r.workers.size Stage.waiting)[i]? = r.workers[i]?.map fun _ => .waiting
    rw [Array.getElem?_replicate]
    by_cases inside : i < r.workers.size
    · rw [if_pos inside, Array.getElem?_eq_getElem inside, Option.map_some]
    · rw [if_neg inside, Array.getElem?_eq_none (Nat.le_of_not_lt inside), Option.map_none]

theorem Goes.isDone_eq_false {change : Account → Account} (goes : Goes e a b change) : a.isDone = false := by
  cases goes <;> rfl

/-- Whether the funding account was read can be told from its stage. -/
theorem fundingRead_iff : s.fundingRead ↔ s.stage? .funding = some (.done (.ok ())) := by
  unfold fundingRead stage?
  constructor
  · intro read
    split at read
    · next here => rw [here]
    · cases read
  · intro here
    rw [Option.some.inj here]

/-- What was read stays so. -/
theorem Move.fundingRead {change : Account → Account} (move : Move s e a b change s') (read : s.fundingRead) :
    s'.fundingRead := by
  rw [fundingRead_iff] at read ⊢
  rw [move.stage, if_neg, read]
  intro own
  have here := move.here
  rw [own, read] at here
  cases here
  cases move.goes.isDone_eq_false

namespace Execution

/-- **How the reading of an account goes**, whatever happens to the others. -/
theorem course (led : Execution (start rpc r) execution s) {old : Account} (mine : (start rpc r).account? x = some old) :
    ∃ st current, s.stage? x = some st ∧ s.account? x = some current ∧ Course x old (about x execution) st current := by
  induction led with
  | nil => exact ⟨.waiting, old, by rw [stage?_start, mine, Option.map_some], mine, .waiting⟩
  | @snoc past t e _ happens ih =>
    obtain ⟨st, current, here, account, course⟩ := ih
    obtain ⟨a, b, change, move⟩ := happens.move
    rw [about_concat, move.stage, move.account]
    by_cases own : e.holder = x
    · rw [if_pos own, if_pos own, if_pos own]
      have same : st = a := by
        rw [← own] at here
        exact Option.some.inj (here.symm.trans move.here)
      subst same
      exact ⟨b, change current, rfl, by rw [account, Option.map_some], course.step move.goes own⟩
    · rw [if_neg own, if_neg own, if_neg own]
      exact ⟨st, current, here, account, course⟩

/-- No worker begins before the funding account was read. -/
theorem workers_waiting (led : Execution (start rpc r) execution s) (unread : s.fundingRead = false) {i : Nat}
    (here : s.stage? (.worker i) = some st) : st = .waiting := by
  let P (t : Sync) : Prop := t.fundingRead = false → ∀ i st, t.stage? (.worker i) = some st → st = .waiting
  refine led.invariant (P := P) (fun {t t' e a b change} kept move unread i st here => ?_) ?_ unread i st here
  · have before : t.fundingRead = false := by
      rw [← Bool.not_eq_true] at unread ⊢
      exact fun read => unread (move.fundingRead read)
    rw [move.stage] at here
    by_cases own : e.holder = .worker i
    -- a worker that waited can only begin, and for that the funding account has to be read
    · have waiting : a = .waiting := kept before i a (own ▸ move.here)
      rcases move.turn waiting with funding | read
      · cases own.symm.trans funding
      · cases before.symm.trans read
    · rw [if_neg own] at here
      exact kept before i st here
  · intro _ i st here
    rw [stage?_start] at here
    obtain ⟨-, -, rfl⟩ := Option.map_eq_some_iff.1 here
    rfl

end Execution

/-! ## The end -/

/-- What a reading that is over has come to: the funding account could not be read, and nothing else was tried; or it
was, and every worker was tried, whatever came of the others. -/
inductive Outcome (r : Registry) (execution : List Event) (s : Sync) : Prop
  | unread (f : Failure) (fails : Fails execution .funding f) (untried : ∀ i, about (.worker i) execution = [])
      (registry : s.registry = r) (result : s.result? = some (.error f))
  | read (n b : Nat) (reads : Reads execution .funding n b) (funding : s.registry.funding = r.funding.withState n b)
      (size : s.registry.workers.size = r.workers.size) (cursor : s.registry.cursor = r.cursor)
      (each : ∀ i old, r.workers[i]? = some old →
        (∃ n b, Reads execution (.worker i) n b ∧ s.registry.workers[i]? = some (old.withState n b)) ∨
          ∃ f, Fails execution (.worker i) f ∧ s.registry.workers[i]? = some old)
      (ended : s.result? ≠ none)
      (ok : s.result? = some (.ok ()) ↔ ∀ i < r.workers.size, ∃ n b, Reads execution (.worker i) n b)
      (error : ∀ f, s.result? = some (.error f) ↔ execution.findSome? Event.workerFailure? = some f)

/-- The reading of an account that is over. -/
theorem Course.cases_done {old current : Account} (course : Course x old (about x execution) st current)
    (finished : st.isDone) :
    (∃ n b, st = .done (.ok ()) ∧ Reads execution x n b ∧ current = old.withState n b) ∨
      ∃ f, st = .done (.error f) ∧ Fails execution x f ∧ current = old := by
  generalize told : about x execution = events at course
  cases course with
  | waiting | begun | halfway => cases finished
  | noNonce f => exact .inr ⟨f, rfl, .inl told, rfl⟩
  | noBalance n f => exact .inr ⟨f, rfl, .inr ⟨n, told⟩, rfl⟩
  | read n b => exact .inl ⟨n, b, rfl, told, rfl⟩

theorem Fails.exists_failure {f : Failure} {i : Nat} (fails : Fails execution (.worker i) f) :
    ∃ e ∈ execution, e.workerFailure? = some f := by
  rcases fails with told | ⟨n, told⟩
  · have listed : .nonce (.worker i) (.error f) ∈ about (.worker i) execution := by simp [told]
    exact ⟨_, (mem_about.1 listed).1, rfl⟩
  · have listed : .balance (.worker i) (.error f) ∈ about (.worker i) execution := by simp [told]
    exact ⟨_, (mem_about.1 listed).1, rfl⟩

theorem Reads.calm {n b : Nat} (reads : Reads execution x n b) (mem : e ∈ execution) (own : e.holder = x) :
    e.workerFailure? = none := by
  have listed : e ∈ about x execution := mem_about.2 ⟨mem, own⟩
  rw [reads] at listed
  simp only [List.mem_cons, List.not_mem_nil, or_false] at listed
  rcases listed with rfl | rfl | rfl <;> cases x <;> rfl

/-- The failure of a worker is told about that worker. -/
theorem holder_of_workerFailure? {f : Failure} (fails : e.workerFailure? = some f) : ∃ i, e.holder = .worker i := by
  cases e with
  | begin x => cases fails
  | nonce x answer => cases x with
    | funding => cases fails
    | worker i => exact ⟨i, rfl⟩
  | balance x answer => cases x with
    | funding => cases fails
    | worker i => exact ⟨i, rfl⟩

/-- When the funding account was read, the workers decide. -/
theorem result?_of_fundingRead (read : s.fundingRead) :
    s.result? =
      if s.workers.all Stage.isDone then some (s.failures.head?.elim (.ok ()) .error) else none := by
  have here : s.funding = .done (.ok ()) := Option.some.inj (fundingRead_iff.1 read)
  unfold result?
  rw [here]
  dsimp only
  cases s.failures <;> rfl

/-- As long as the funding account was not read, nothing is told about a worker, and the worker is what it was. -/
theorem Execution.worker_of_unread (led : Execution (start rpc r) execution s) (unread : s.fundingRead = false) (i : Nat) :
    about (.worker i) execution = [] ∧ s.registry.workers[i]? = r.workers[i]? := by
  cases mine : (start rpc r).account? (.worker i) with
  | none =>
    have absent : (start rpc r).stage? (.worker i) = none := by rw [stage?_start, mine, Option.map_none]
    refine ⟨(led.about_of_none absent).1, ?_⟩
    have outside : r.workers.size ≤ i := Array.getElem?_eq_none_iff.1 mine
    rw [show r.workers[i]? = none from mine]
    exact Array.getElem?_eq_none (Nat.le_trans (Nat.le_of_eq led.registry.1) outside)
  | some old =>
    obtain ⟨st, current, here, account, course⟩ := led.course mine
    rw [led.workers_waiting unread here] at course
    generalize about (.worker i) execution = events at course ⊢
    cases course with
    | waiting => exact ⟨rfl, account.trans mine.symm⟩

theorem Execution.result? (led : Execution (start rpc r) execution s) (read : s.fundingRead) (finished : s.workers.all Stage.isDone) :
    s.result? = some ((execution.findSome? Event.workerFailure?).elim (.ok ()) .error) := by
  have failures : s.failures = execution.filterMap Event.workerFailure? := led.failures
  rw [result?_of_fundingRead read, if_pos finished, failures, List.head?_filterMap]

/-- No failure of a worker is told exactly if all of them were read, when each was read or failed. -/
theorem Execution.failure?_eq_none_iff (led : Execution (start rpc r) execution s)
    (each : ∀ i < r.workers.size, (∃ n b, Reads execution (.worker i) n b) ∨ ∃ f, Fails execution (.worker i) f) :
    execution.findSome? Event.workerFailure? = none ↔ ∀ i < r.workers.size, ∃ n b, Reads execution (.worker i) n b := by
  rw [List.findSome?_eq_none_iff]
  constructor
  · intro calm i inside
    rcases each i inside with reads | ⟨f, fails⟩
    · exact reads
    · obtain ⟨e, mem, failure⟩ := fails.exists_failure
      cases (calm e mem).symm.trans failure
  · intro reads e mem
    by_contra fails
    obtain ⟨f, failure⟩ := Option.ne_none_iff_exists'.1 fails
    obtain ⟨i, own⟩ := holder_of_workerFailure? failure
    have listed : e ∈ about (.worker i) execution := mem_about.2 ⟨mem, own⟩
    by_cases inside : i < r.workers.size
    · obtain ⟨n, b, reads⟩ := reads i inside
      exact fails (reads.calm mem own)
    · have mine : (start rpc r).account? (.worker i) = none := Array.getElem?_eq_none (Nat.le_of_not_lt inside)
      have absent : (start rpc r).stage? (.worker i) = none := by rw [stage?_start, mine, Option.map_none]
      rw [(led.about_of_none absent).1] at listed
      cases listed

/-- **A reading that is over has come to one of its two ends.** -/
theorem Execution.outcome (led : Execution (start rpc r) execution s) (ends : s.result? ≠ none) : Outcome r execution s := by
  obtain ⟨st, current, here, account, course⟩ := led.course (x := .funding) rfl
  obtain rfl : s.funding = st := Option.some.inj here
  obtain rfl : s.registry.funding = current := Option.some.inj account
  have finished : s.funding.isDone := by
    cases stage : s.funding with
    | done result => rfl
    | _ => exact absurd (by rw [Sync.result?, stage]) ends
  rcases course.cases_done finished with ⟨n, b, ok, reads, funding⟩ | ⟨f, failed, fails, same⟩
  · have read : s.fundingRead := fundingRead_iff.2 (congrArg some ok)
    have all : s.workers.all Stage.isDone := by
      rw [result?_of_fundingRead read] at ends
      by_contra some
      exact ends (if_neg some)
    have each : ∀ i old, r.workers[i]? = some old →
        (∃ n b, Reads execution (.worker i) n b ∧ s.registry.workers[i]? = some (old.withState n b)) ∨
          ∃ f, Fails execution (.worker i) f ∧ s.registry.workers[i]? = some old := by
      intro i old mine
      obtain ⟨st, current, here, account, course⟩ := led.course (x := .worker i) mine
      have finished : st.isDone := Array.all_eq_true_iff_forall_mem.1 all st (Array.mem_of_getElem? here)
      rcases course.cases_done finished with ⟨n, b, -, reads, rfl⟩ | ⟨f, -, fails, rfl⟩
      · exact .inl ⟨n, b, reads, account⟩
      · exact .inr ⟨f, fails, account⟩
    have result := led.result? read all
    refine .read n b reads funding led.registry.1 led.registry.2 each ends ?_ fun f => ?_
    · have calm := led.failure?_eq_none_iff fun i inside =>
        (each i _ (Array.getElem?_eq_getElem inside)).imp (fun ⟨n, b, reads, _⟩ => ⟨n, b, reads⟩)
          fun ⟨f, fails, _⟩ => ⟨f, fails⟩
      rw [result, ← calm]
      cases execution.findSome? Event.workerFailure? with
      | none => exact iff_of_true rfl rfl
      | some g => exact iff_of_false nofun nofun
    · rw [result]
      cases execution.findSome? Event.workerFailure? with
      | none => exact iff_of_false nofun nofun
      | some g => simp
  · have unread : s.fundingRead = false := by
      rw [fundingRead, failed]
    have idle := led.worker_of_unread unread
    refine .unread f fails (fun i => (idle i).1) ?_ (by rw [Sync.result?, failed])
    have workers : s.registry.workers = r.workers := Array.ext_getElem? fun i => (idle i).2
    calc s.registry = ⟨s.registry.funding, s.registry.workers, s.registry.cursor⟩ := rfl
      _ = ⟨r.funding, r.workers, r.cursor⟩ := by rw [same, workers, led.registry.2]; rfl

end Start

end TxLoad.Sync
