import TxLoad.Proofs.Scheduler
import TxLoad.Proofs.Lists
import TxLoad.Proofs.Network.Serving
import TxLoad.Proofs.Syncing.Execution
import TxLoad.Simulation.Syncing
import Mathlib.Data.List.Nodup

/-!
# Readings that are played

A simulation plays the reading of all accounts against an endpoint with scripted answers. Whatever the script, if it
leaves no question without an answer, the reading comes to an end.

- `Sync.Timeline` is an execution with times: every answer in it is the endpoint's reply to that question, and comes when the
  reply had its time;
- `Simulation.Going` says that every account that is not over is carried on by one task that suits it, or waits in the
  backlog, or is the one that is being read just now; events keep it (`Going.event`), and so does each step of the
  simulation (`Going.askNonce`, `Going.takeNonce`, `Going.askBalance`, `Going.takeBalance`);
- a turn is paid for (`Underway.turn`), and when no turn is left the reading is over (`Underway.over_of_stuck`);
- **every reading keeps each account whole, and every reading that is played comes to an outcome** (`accounts_atomic`).
-/

namespace TxLoad

namespace Sync

open Network (Net Answer Endpoint)

variable {s s' s₀ : Sync} {E : Endpoint} {x y : Holder} {e : Event} {a b st : Stage} {time due : Nat}
  {change : Account → Account} {timeline : List (Nat × Event)} {p : Nat × Event}

/-! ## Diaries -/

/-- The address of an account. -/
def address (s : Sync) (x : Holder) : Address := ((s.account? x).map (·.address)).getD .zero

/-- The account whose nonce is asked for at an event. -/
def Event.asksNonce? : Event → Option Holder
  | begin x => some x
  | _ => none

/-- The account whose balance is asked for at an event; that is when its nonce is known. -/
def Event.asksBalance? : Event → Option Holder
  | nonce x (.ok _) => some x
  | _ => none

/-- The questions of a kind, in order: when, and about which account. -/
def questions (asks? : Event → Option Holder) (timeline : List (Nat × Event)) : List (Nat × Holder) :=
  timeline.filterMap fun p => (asks? p.2).map (p.1, ·)

/-- A continued timeline has the question of its last event in addition. -/
theorem questions_concat (asks? : Event → Option Holder) (timeline : List (Nat × Event)) (p : Nat × Event) :
    questions asks? (timeline ++ [p]) = questions asks? timeline ++ ((asks? p.2).map (p.1, ·)).toList := by
  unfold questions
  rw [List.filterMap_append]
  rfl

theorem questions_last {asks? : Event → Option Holder} (timeline : List (Nat × Event)) {time : Nat} {e : Event}
    {x : Holder} (asks : asks? e = some x) :
    (questions asks? (timeline ++ [(time, e)]))[(questions asks? timeline).length]? = some (time, x) := by
  rw [questions_concat, asks]
  exact List.getElem?_concat_length

/-- The endpoint after the questions of a timeline. -/
def asked (E : Endpoint) (timeline : List (Nat × Event)) : Endpoint :=
  { E with
    nonce := ⟨E.nonce.script, E.nonce.calls + (questions Event.asksNonce? timeline).length⟩
    balance := ⟨E.balance.script, E.balance.calls + (questions Event.asksBalance? timeline).length⟩ }

theorem asked_of_silent (E : Endpoint) (timeline : List (Nat × Event)) {p : Nat × Event} (nonce : p.2.asksNonce? = none)
    (balance : p.2.asksBalance? = none) : asked E (timeline ++ [p]) = asked E timeline := by
  unfold asked
  rw [questions_concat, questions_concat, nonce, balance]
  simp

/-- When an account begins, its nonce is asked for. -/
theorem askNonce_asked (E : Endpoint) (timeline : List (Nat × Event)) (time : Nat) (x : Holder) (a : Address) :
    (asked E timeline).askNonce a =
      (E.nonceReply (questions Event.asksNonce? timeline).length a, asked E (timeline ++ [(time, .begin x)])) := by
  unfold asked
  rw [questions_concat, questions_concat]
  simp [Event.asksNonce?, Event.asksBalance?, Endpoint.askNonce, Endpoint.nonceReply, Network.ScriptState.next, Nat.add_assoc]

/-- When a nonce is known, the balance is asked for. -/
theorem askBalance_asked (E : Endpoint) (timeline : List (Nat × Event)) (time : Nat) (x : Holder) (n : Nat) (a : Address) :
    (asked E timeline).askBalance a =
      (E.balanceReply (questions Event.asksBalance? timeline).length, asked E (timeline ++ [(time, .nonce x (.ok n))])) := by
  unfold asked
  rw [questions_concat, questions_concat]
  simp [Event.asksNonce?, Event.asksBalance?, Endpoint.askBalance, Endpoint.balanceReply, Network.ScriptState.next,
    Nat.add_assoc]

/-- An answer at time `due` is the endpoint's reply to a question of the timeline, and came when the reply had its time. -/
def Replied (E : Endpoint) (s₀ : Sync) (timeline : List (Nat × Event)) (due : Nat) : Event → Prop
  | .begin _ => True
  | .nonce x answer =>
    ∃ k time delay, (questions Event.asksNonce? timeline)[k]? = some (time, x) ∧
      E.nonceReply k (s₀.address x) = ⟨delay, some answer⟩ ∧ due = time + delay
  | .balance x answer =>
    ∃ k time delay, (questions Event.asksBalance? timeline)[k]? = some (time, x) ∧
      E.balanceReply k = ⟨delay, some answer⟩ ∧ due = time + delay

/-- **An execution with times**: every event happens when it comes and comes no earlier than those before it, and every answer
is the reply of the endpoint `E` to its question. -/
inductive Timeline (E : Endpoint) (s₀ : Sync) : List (Nat × Event) → Sync → Prop
  | nil : Timeline E s₀ [] s₀
  | snoc {past : List (Nat × Event)} {s : Sync} {time : Nat} {e : Event} (written : Timeline E s₀ past s)
      (happens : s.Happens e) (late : ∀ p ∈ past, p.1 ≤ time) (replied : Replied E s₀ past time e) :
    Timeline E s₀ (past ++ [(time, e)]) (s.step e)

/-- The addresses stay. -/
theorem Move.address (move : Move s e a b change s') : s'.address = s.address := by
  funext x
  unfold Sync.address
  rw [move.account]
  split
  · rw [Option.map_map]
    have same : (fun old : Account => old.address) ∘ change = (·.address) := by
      cases move.goes <;> rfl
    rw [same]
  · rfl

namespace Timeline

/-- A timeline without its times is an execution. -/
theorem execution (written : Timeline E s₀ timeline s) : Execution s₀ (timeline.map (·.2)) s := by
  induction written with
  | nil => exact .nil
  | snoc _ happens _ _ ih =>
    rw [List.map_append]
    exact ih.snoc happens

theorem address (written : Timeline E s₀ timeline s) : s.address = s₀.address :=
  written.execution.invariant (P := fun t => t.address = s₀.address) (fun same move => move.address.trans same) rfl

end Timeline

/-- What was replied stays so when the timeline is continued. -/
theorem Replied.mono (replied : Replied E s₀ timeline due e) (p : Nat × Event) : Replied E s₀ (timeline ++ [p]) due e := by
  have earlier {xs ys : List (Nat × Holder)} {k : Nat} {q : Nat × Holder} (here : xs[k]? = some q) :
      (xs ++ ys)[k]? = some q := by
    rw [List.getElem?_append_left (List.getElem?_eq_some_iff.1 here).1, here]
  cases e with
  | begin x => trivial
  | nonce x answer =>
    obtain ⟨k, time, delay, here, reply⟩ := replied
    refine ⟨k, time, delay, ?_, reply⟩
    rw [questions_concat]
    exact earlier here
  | balance x answer =>
    obtain ⟨k, time, delay, here, reply⟩ := replied
    refine ⟨k, time, delay, ?_, reply⟩
    rw [questions_concat]
    exact earlier here

/-! ## What is left to do -/

/-- An account is not over. -/
def Open (s : Sync) (x : Holder) : Prop := ∃ st, s.stage? x = some st ∧ st.isDone = false

/-- The events that an account still needs, at most. -/
def Stage.left : Stage → Nat
  | waiting => 3
  | nonce => 2
  | balance _ => 1
  | done _ => 0

/-- The events that a reading still needs, at most. -/
def left (s : Sync) : Nat := s.funding.left + (s.workers.toList.map Stage.left).sum

/-- When the funding account is over and the reading is not, the funding account was read. -/
theorem fundingRead_of_isDone (unfinished : s.result? = none) (finished : s.funding.isDone) : s.fundingRead := by
  unfold fundingRead
  unfold result? at unfinished
  cases stage : s.funding with
  | done result =>
    cases result with
    | ok => rfl
    | error f => rw [stage] at unfinished; cases unfinished
  | _ => rw [stage] at finished; cases finished

/-- A reading is over when all accounts are. -/
theorem result?_ne_none (finished : ∀ x, ¬s.Open x) : s.result? ≠ none := by
  intro unfinished
  have done_of_stage {x : Holder} {st : Stage} (here : s.stage? x = some st) : st.isDone := by
    by_contra open_
    exact finished x ⟨st, here, Bool.eq_false_iff.2 open_⟩
  have read := fundingRead_of_isDone unfinished (done_of_stage (x := .funding) rfl)
  have all : s.workers.all Stage.isDone := by
    rw [Array.all_eq_true]
    intro i inside
    exact done_of_stage (x := .worker i) (Array.getElem?_eq_getElem inside)
  rw [result?_of_fundingRead read, if_pos all] at unfinished
  cases unfinished

/-- The funding account stays read, or failed. -/
theorem Move.isDone_funding (move : Move s e a b change s') (finished : s.funding.isDone) : s'.funding.isDone := by
  have other : e.holder ≠ .funding := by
    intro own
    have here := move.here
    rw [own] at here
    cases here
    cases move.goes.isDone_eq_false.symm.trans finished
  have same : s'.funding = s.funding := Option.some.inj ((move.stage .funding).trans (if_neg other))
  rwa [same]

/-- **Every event that happens saves one of those that are left.** -/
theorem Move.left_lt (move : Move s e a b change s') : s'.left < s.left := by
  have less : b.left < a.left := by
    cases move.goes <;> simp [Stage.left]
  have here := move.here
  have stage := move.stage
  unfold left
  cases own : e.holder with
  | funding =>
    rw [own] at here stage
    have funding : s'.funding = b := Option.some.inj (stage .funding)
    have workers : s'.workers = s.workers := Array.ext_getElem? fun i => stage (.worker i)
    have before : s.funding = a := Option.some.inj here
    rw [funding, workers, before]
    omega
  | worker i =>
    rw [own] at here stage
    have funding : s'.funding = s.funding := Option.some.inj (stage .funding)
    have listed : s.workers.toList[i]? = some a := by
      rw [Array.getElem?_toList]
      exact here
    have workers : s'.workers.toList = s.workers.toList.modify i fun _ => b := by
      refine List.ext_getElem? fun j => ?_
      rw [List.getElem?_modify, Array.getElem?_toList, Array.getElem?_toList]
      have moved : s'.workers[j]? = if Holder.worker i = .worker j then some b else s.workers[j]? := stage (.worker j)
      rw [moved]
      by_cases same : i = j
      · subst same
        rw [if_pos rfl, show s.workers[i]? = some a from here]
        simp
      · simp [same]
    have sum := sum_map_modify Stage.left (fun _ => b) listed
    rw [funding, workers]
    omega

/-! ## What is carried -/

/-- The event of a task. -/
def Task.event : Task → Event
  | begin x => .begin x
  | nonce x answer => .nonce x answer
  | balance x answer => .balance x answer

/-- A task fits: its event suits, and what it tells is replied at that time. -/
structure Fits (E : Endpoint) (s₀ : Sync) (timeline : List (Nat × Event)) (s : Sync) (due : Nat) (e : Event) : Prop where
  suits : s.Suits s.funding.isDone e
  replied : Replied E s₀ timeline due e

/-- What suits an account does not depend on the others. -/
theorem Suits.frame {opened opened' : Prop} (suits : s.Suits opened e) (same : s'.stage? e.holder = s.stage? e.holder)
    (later : opened → opened') : s'.Suits opened' e := by
  cases e with
  | begin x => exact ⟨same.trans suits.1, suits.2.imp_right later⟩
  | nonce x answer => exact same.trans suits
  | balance x answer =>
    obtain ⟨n, here⟩ := suits
    exact ⟨n, same.trans here⟩

namespace Simulation

/-- The accounts that are being read just now, that tasks carry on, and those of the backlog. -/
def load (h : Simulation) (busy : Option Holder) : List Holder :=
  busy.toList ++ h.scheduler.tasks.map (·.event.holder) ++ h.backlog.map .worker

/-- **Whatever is not over is carried**, once, by a task that fits; or it is in the backlog, or it is `busy`. -/
structure Going (E : Endpoint) (s₀ : Sync) (timeline : List (Nat × Event)) (busy : Option Holder) (h : Simulation) :
    Prop where
  written : Timeline E s₀ timeline h.sync
  past : ∀ p ∈ timeline, p.1 ≤ h.scheduler.now
  later : ∀ p ∈ h.scheduler.waiting, h.scheduler.now ≤ p.1
  fits : ∀ p ∈ h.scheduler.entries, Fits E s₀ timeline h.sync p.1 p.2.event
  parked : ∀ i ∈ h.backlog, h.sync.stage? (.worker i) = some .waiting
  once : (h.load busy).Nodup
  carried : ∀ x, h.sync.Open x → x ∈ h.load busy

/-- The endpoint at hand was asked all the questions of the timeline. -/
def Faces (E : Endpoint) (timeline : List (Nat × Event)) (h : Simulation) : Prop :=
  h.net.endpoints[h.endpoint]? = some (asked E timeline)

/-- The simulation goes on while nobody is busy, and the backlog does not wait in vain. -/
structure Underway (E : Endpoint) (s₀ : Sync) (timeline : List (Nat × Event)) (h : Simulation) : Prop
    extends Going E s₀ timeline none h where
  faces : Faces E timeline h
  window : h.backlog ≠ [] → h.scheduler.tasks ≠ []

variable {h h' : Simulation} {busy : Option Holder} {t : Task}

theorem Faces.silent (faces : Faces E timeline h) (nonce : p.2.asksNonce? = none) (balance : p.2.asksBalance? = none) :
    Faces E (timeline ++ [p]) h := by
  unfold Faces
  rwa [asked_of_silent E timeline nonce balance]

namespace Going

theorem other_of_entry (g : Going E s₀ timeline (some x) h) {q : Nat × Task} (entry : q ∈ h.scheduler.entries) :
    x ≠ q.2.event.holder := by
  have fresh : x ∉ h.load none := (List.nodup_cons.1 g.once).1
  rintro rfl
  exact fresh (List.mem_append_left _ (List.mem_append_right _ (List.mem_map_of_mem (Scheduler.mem_tasks entry))))

theorem other_of_parked (g : Going E s₀ timeline (some x) h) {i : Nat} (parked : i ∈ h.backlog) : x ≠ .worker i := by
  have fresh : x ∉ h.load none := (List.nodup_cons.1 g.once).1
  rintro rfl
  exact fresh (List.mem_append_right _ (List.mem_map_of_mem parked))

theorem net (g : Going E s₀ timeline busy h) (net : Net) : Going E s₀ timeline busy { h with net := net } :=
  ⟨g.written, g.past, g.later, g.fits, g.parked, g.once, g.carried⟩

/-- **An event of the busy account keeps the simulation going.** -/
theorem event (g : Going E s₀ timeline (some x) h) (own : e.holder = x) (happens : h.sync.Happens e)
    (replied : Replied E s₀ timeline h.scheduler.now e) :
    Going E s₀ (timeline ++ [(h.scheduler.now, e)]) (some x) (h.event e) := by
  obtain ⟨a, b, change, move⟩ := happens.move
  -- the event moves the busy account alone, and neither a task nor the backlog is about that one
  have same {y : Holder} (other : x ≠ y) : (h.sync.step e).stage? y = h.sync.stage? y := by
    rw [move.stage, if_neg (own ▸ other)]
  refine ⟨g.written.snoc happens g.past replied, fun p mem => ?_, g.later, fun q entry => ?_, fun i parked => ?_, g.once,
    fun y unfinished => ?_⟩
  · rcases List.mem_append.1 mem with old | new
    · exact g.past p old
    · rw [List.mem_singleton.1 new]
      exact Nat.le_refl _
  · have fits := g.fits q entry
    exact ⟨fits.suits.frame (same (g.other_of_entry entry)) move.isDone_funding, fits.replied.mono _⟩
  · exact (same (g.other_of_parked parked)).trans (g.parked i parked)
  · by_cases mine : x = y
    · subst mine
      exact List.mem_cons_self
    · obtain ⟨st, here, unfinished⟩ := unfinished
      exact g.carried y ⟨st, (same mine).symm.trans here, unfinished⟩

/-- Who is over need not be carried on. -/
theorem rest (g : Going E s₀ timeline (some x) h) (finished : ¬h.sync.Open x) : Going E s₀ timeline none h where
  written := g.written
  past := g.past
  later := g.later
  fits := g.fits
  parked := g.parked
  once := (List.nodup_cons.1 g.once).2
  carried y unfinished := by
    rcases List.mem_cons.1 (g.carried y unfinished) with rfl | mem
    · exact absurd unfinished finished
    · exact mem

/-- The busy account is carried on by a task that is put off. -/
theorem putOff (g : Going E s₀ timeline (some x) h) (faces : Faces E timeline h) (own : t.event.holder = x)
    (late : h.scheduler.now ≤ due) (fits : Fits E s₀ timeline h.sync due t.event) :
    Underway E s₀ timeline { h with scheduler := h.scheduler.putOff due t } := by
  have load : (load { h with scheduler := h.scheduler.putOff due t } none).Perm (h.load (some x)) := by
    have tasks := (h.scheduler.tasks_putOff due t).map (·.event.holder)
    rw [List.map_cons, own] at tasks
    exact List.Perm.append_right _ tasks
  refine ⟨⟨g.written, g.past, fun q mem => ?_, fun q entry => ?_, g.parked, load.nodup_iff.2 g.once,
    fun y unfinished => load.mem_iff.2 (g.carried y unfinished)⟩, faces, fun _ => ?_⟩
  · rcases List.mem_append.1 mem with old | new
    · exact g.later q old
    · rw [List.mem_singleton.1 new]
      exact late
  · rcases Scheduler.mem_entries_putOff.1 entry with old | rfl
    · exact g.fits q old
    · exact fits
  · exact List.ne_nil_of_mem ((h.scheduler.tasks_putOff due t).mem_iff.2 List.mem_cons_self)

/-- The first of the backlog begins. -/
theorem startNextFirst (g : Going E s₀ timeline none h) (opened : h.sync.funding.isDone) {i : Nat} {rest : List Nat}
    (waits : h.backlog = i :: rest) :
    Going E s₀ timeline none { h with scheduler := h.scheduler.enqueue (.begin (.worker i)), backlog := rest } := by
  have load : (load { h with scheduler := h.scheduler.enqueue (.begin (.worker i)), backlog := rest } none).Perm
      (h.load none) := by
    have tasks := (h.scheduler.tasks_enqueue (.begin (.worker i))).map (·.event.holder)
    rw [List.map_cons] at tasks
    unfold Simulation.load
    rw [waits, List.map_cons]
    exact (List.Perm.append_right _ tasks).trans List.perm_middle.symm
  refine ⟨g.written, g.past, g.later, fun q entry => ?_, fun j parked => ?_, load.nodup_iff.2 g.once,
    fun y unfinished => load.mem_iff.2 (g.carried y unfinished)⟩
  · rcases Scheduler.mem_entries_enqueue.1 entry with old | rfl
    · exact g.fits q old
    · exact ⟨⟨g.parked i (waits ▸ List.mem_cons_self), .inr opened⟩, trivial⟩
  · exact g.parked j (waits ▸ List.mem_cons_of_mem _ parked)

end Going

theorem startNext_succ {i : Nat} {rest : List Nat} (waits : h.backlog = i :: rest) (count : Nat) :
    h.startNext (count + 1) =
      startNext { h with scheduler := h.scheduler.enqueue (.begin (.worker i)), backlog := rest } count := by
  unfold startNext
  rw [waits]
  rfl

theorem startNext_of_nil (empty : h.backlog = []) (count : Nat) : h.startNext count = h := by
  obtain ⟨sync, net, endpoint, scheduler, backlog⟩ := h
  cases empty
  simp [startNext]

/-- Letting accounts in takes no task away. -/
theorem tasks_startNext (busy : h.scheduler.tasks ≠ []) (count : Nat) : (h.startNext count).scheduler.tasks ≠ [] := by
  induction count generalizing h with
  | zero => exact busy
  | succ count ih =>
    cases waits : h.backlog with
    | nil => rwa [startNext_of_nil waits]
    | cons i rest =>
      rw [startNext_succ waits]
      exact ih (List.ne_nil_of_mem ((h.scheduler.tasks_enqueue _).mem_iff.2 List.mem_cons_self))

namespace Going

/-- Letting accounts in keeps the simulation going. -/
theorem startNext (g : Going E s₀ timeline none h) (opened : h.sync.funding.isDone) (count : Nat) :
    Going E s₀ timeline none (h.startNext count) := by
  induction count generalizing h with
  | zero => exact g
  | succ count ih =>
    cases waits : h.backlog with
    | nil => rwa [startNext_of_nil waits]
    | cons i rest =>
      rw [startNext_succ waits]
      exact ih (g.startNextFirst opened waits) opened

/-- When at least one is let in, the backlog does not wait in vain. -/
theorem underway_startNext (g : Going E s₀ timeline none h) (faces : Faces E timeline h) (opened : h.sync.funding.isDone)
    (count : Nat) : Underway E s₀ timeline (h.startNext (count + 1)) := by
  refine ⟨g.startNext opened (count + 1), faces, fun waits => ?_⟩
  cases backlog : h.backlog with
  | nil =>
    rw [startNext_of_nil backlog] at waits
    exact absurd backlog waits
  | cons i rest =>
    rw [startNext_succ backlog]
    exact tasks_startNext (List.ne_nil_of_mem ((h.scheduler.tasks_enqueue _).mem_iff.2 List.mem_cons_self)) count

variable {rpc : String} {r : Registry}

/-- When a worker is over, the funding account is. -/
theorem opened (g : Going E (start rpc r) timeline busy h) {result : Except Failure Unit}
    (here : h.sync.stage? x = some (.done result)) : h.sync.funding.isDone := by
  cases x with
  | funding => rw [show h.sync.funding = .done result from Option.some.inj here]; rfl
  | worker i =>
    have read : h.sync.fundingRead := by
      by_contra unread
      cases g.written.execution.workers_waiting (Bool.eq_false_iff.2 unread) here
    rw [show h.sync.funding = .done (.ok ()) from Option.some.inj (fundingRead_iff.1 read)]
    rfl

/-- **An account that is over makes room.** -/
theorem close (g : Going E (start rpc r) timeline (some x) h) (faces : Faces E timeline h) {result : Except Failure Unit}
    (here : h.sync.stage? x = some (.done result)) : Underway E (start rpc r) timeline (h.close x) := by
  have finished : h.isDone x = true := by rw [isDone, here]; rfl
  have unfit : ¬h.sync.Open x := by
    rintro ⟨st, there, unfinished⟩
    cases here.symm.trans there
    cases unfinished
  have idle := g.rest unfit
  unfold Simulation.close
  rw [if_pos finished]
  split
  · exact idle.underway_startNext faces (g.opened here) 15
  · exact idle.underway_startNext faces (g.opened here) 0

end Going

theorem sync_close (h : Simulation) (x : Holder) : (h.close x).sync = h.sync := by
  unfold close
  split <;> rfl

/-! ## The steps of a simulation -/

/-- The simulation goes on, and fewer than `n` events are left. -/
def Onward (E : Endpoint) (s₀ : Sync) (n : Nat) (h : Simulation) : Prop :=
  ∃ timeline, Underway E s₀ timeline h ∧ h.sync.left < n

theorem Onward.mono {n m : Nat} (onward : Onward E s₀ n h) (le : n ≤ m) : Onward E s₀ m h := by
  obtain ⟨timeline, underway, less⟩ := onward
  exact ⟨timeline, underway, Nat.lt_of_lt_of_le less le⟩

namespace Going

variable {rpc : String} {r : Registry} {answer : Except Failure Nat} {n : Nat}

/-- A reply that is there at once is taken, and for a later one a task is put off. -/
theorem await (g : Going E s₀ timeline (some x) h) (faces : Faces E timeline h) {reply : Answer Nat}
    (answered : ∃ result, reply.result = some result) {task : Except Failure Nat → Task}
    (own : ∀ result, (task result).event.holder = x)
    (fits : ∀ result, reply = ⟨reply.delay, some result⟩ →
      Fits E s₀ timeline h.sync (h.scheduler.now + reply.delay) (task result).event)
    {take : Simulation → Except Failure Nat → Simulation} (less : h.sync.left < n)
    (taken : ∀ result, Fits E s₀ timeline h.sync h.scheduler.now (task result).event → Onward E s₀ n (take h result)) :
    Onward E s₀ n (h.await reply task take) := by
  obtain ⟨delay, result⟩ := reply
  obtain ⟨result, rfl⟩ := answered
  have fits := fits result rfl
  unfold Simulation.await
  dsimp only at fits ⊢
  split
  · next none =>
    subst none
    exact taken result fits
  · exact ⟨timeline, g.putOff faces (own result) (Nat.le_add_right ..) fits, less⟩

/-- The answer about a balance ends the reading of an account. -/
theorem takeBalance (g : Going E (start rpc r) timeline (some x) h) (faces : Faces E timeline h)
    (fits : Fits E (start rpc r) timeline h.sync h.scheduler.now (.balance x answer)) :
    Onward E (start rpc r) h.sync.left (h.takeBalance x answer) := by
  have happens : h.sync.Happens (.balance x answer) := fits.suits
  obtain ⟨a, b, change, move⟩ := happens.move
  obtain ⟨result, rfl⟩ : ∃ result, b = .done result := by cases move.goes <;> exact ⟨_, rfl⟩
  let noted : Simulation := { h with net := h.net.finish h.endpoint h.now (.askedBalance (h.address x)) }
  have told := (g.net noted.net).event rfl happens fits.replied
  have faces : Faces E timeline (noted.event (.balance x answer)) := faces
  have faces := faces.silent (p := (h.scheduler.now, .balance x answer)) rfl rfl
  refine ⟨_, told.close faces ((move.stage x).trans (if_pos rfl)), ?_⟩
  exact Nat.lt_of_le_of_lt (Nat.le_of_eq (congrArg left (sync_close _ x))) move.left_lt

/-- Asking for the balance leads on, when the nonce has just become known. -/
theorem askBalance (informs : E.Informs) {m : Nat}
    (g : Going E (start rpc r) (timeline ++ [(h.scheduler.now, .nonce x (.ok m))]) (some x) h) (faces : Faces E timeline h)
    (here : h.sync.stage? x = some (.balance m)) (less : h.sync.left < n) :
    Onward E (start rpc r) n (h.askBalance x) := by
  obtain ⟨net, asking, there⟩ := Network.Net.ask_of_there (·.askBalance (h.address x)) faces
  rw [askBalance_asked E timeline h.scheduler.now x m] at asking there
  unfold Simulation.askBalance
  rw [asking]
  refine (g.net net).await there (informs.exists_balanceReply _) (fun _ => rfl) (fun result reply => ?_) less
    fun result fits => ((g.net net).takeBalance there fits).mono (Nat.le_of_lt less)
  exact ⟨⟨m, here⟩, _, h.scheduler.now, _, questions_last timeline rfl, reply, rfl⟩

/-- The answer about a nonce ends the reading of an account, or leads to the question about the balance. -/
theorem takeNonce (informs : E.Informs) (g : Going E (start rpc r) timeline (some x) h) (faces : Faces E timeline h)
    (fits : Fits E (start rpc r) timeline h.sync h.scheduler.now (.nonce x answer)) :
    Onward E (start rpc r) h.sync.left (h.takeNonce x answer) := by
  have happens : h.sync.Happens (.nonce x answer) := fits.suits
  obtain ⟨a, b, change, move⟩ := happens.move
  have stage : (h.sync.step (.nonce x answer)).stage? x = some b := (move.stage x).trans (if_pos rfl)
  let noted : Simulation := { h with net := h.net.finish h.endpoint h.now (.askedNonce (h.address x)) }
  let told : Simulation := noted.event (.nonce x answer)
  have going : Going E (start rpc r) (timeline ++ [(h.scheduler.now, .nonce x answer)]) (some x) told :=
    (g.net noted.net).event rfl happens fits.replied
  have finished : told.isDone x = b.isDone := by
    unfold isDone
    rw [show told.sync.stage? x = some b from stage]
  show Onward E (start rpc r) h.sync.left (if told.isDone x then told.close x else told.askBalance x)
  rw [finished]
  cases answer with
  | error f =>
    obtain rfl : b = .done (.error f) := by cases move.goes; rfl
    have faces : Faces E timeline told := faces
    refine ⟨_, going.close (faces.silent rfl rfl) stage, ?_⟩
    exact Nat.lt_of_le_of_lt (Nat.le_of_eq (congrArg left (sync_close told x))) move.left_lt
  | ok m =>
    obtain rfl : b = .balance m := by cases move.goes; rfl
    exact askBalance informs going faces stage move.left_lt

/-- Asking for the nonce leads on, when the account has just begun. -/
theorem askNonce (informs : E.Informs)
    (g : Going E (start rpc r) (timeline ++ [(h.scheduler.now, .begin x)]) (some x) h) (faces : Faces E timeline h)
    (here : h.sync.stage? x = some .nonce) (less : h.sync.left < n) : Onward E (start rpc r) n (h.askNonce x) := by
  have address : h.address x = (start rpc r).address x := congrFun g.written.address x
  obtain ⟨net, asking, there⟩ := Network.Net.ask_of_there (·.askNonce (h.address x)) faces
  rw [askNonce_asked E timeline h.scheduler.now x] at asking there
  unfold Simulation.askNonce
  rw [asking, address]
  refine (g.net net).await there (informs.exists_nonceReply _ _) (fun _ => rfl) (fun result reply => ?_) less
    fun result fits => (takeNonce informs (g.net net) there fits).mono (Nat.le_of_lt less)
  exact ⟨here, _, h.scheduler.now, _, questions_last timeline rfl, reply, rfl⟩

/-- **What a task is woken up for leads on.** -/
theorem perform (informs : E.Informs) (g : Going E (start rpc r) timeline (some t.event.holder) h)
    (faces : Faces E timeline h) (fits : Fits E (start rpc r) timeline h.sync h.scheduler.now t.event)
    (unfinished : h.sync.result? = none) : Onward E (start rpc r) h.sync.left (h.perform t) := by
  cases t with
  | begin x =>
    obtain ⟨here, turn⟩ := fits.suits
    -- a funding account that failed would have ended the reading
    have happens : h.sync.Happens (.begin x) := ⟨here, turn.imp_right (fundingRead_of_isDone unfinished)⟩
    obtain ⟨a, b, change, move⟩ := happens.move
    have stage : (h.sync.step (.begin x)).stage? x = some b := (move.stage x).trans (if_pos rfl)
    obtain rfl : b = .nonce := by cases move.goes; rfl
    exact askNonce informs (g.event rfl happens trivial) faces stage move.left_lt
  | nonce x answer => exact takeNonce informs g faces fits
  | balance x answer => exact g.takeBalance faces fits

end Going

/-! ## Turns -/

/-- The turns that are left, at most: an event may need one turn for itself, and one for the clock before it. -/
def weight (h : Simulation) : Nat := 2 * h.sync.left + if h.scheduler.ready = [] then 1 else 0

namespace Underway

variable {rpc : String} {r : Registry}

/-- A task that is taken from the scheduler makes its account busy. -/
theorem pop (u : Underway E s₀ timeline h) {rest : List Task} (ready : h.scheduler.ready = t :: rest) :
    Going E s₀ timeline (some t.event.holder) { h with scheduler := { h.scheduler with ready := rest } } := by
  have load : load { h with scheduler := { h.scheduler with ready := rest } } (some t.event.holder) = h.load none := by
    unfold Simulation.load Scheduler.tasks
    rw [ready]
    rfl
  refine ⟨u.written, u.past, u.later, fun p entry => u.fits p ?_, u.parked, load ▸ u.once, load ▸ u.carried⟩
  rw [Scheduler.mem_entries] at entry ⊢
  rcases entry with ⟨now, mem⟩ | waiting
  · exact .inl ⟨now, by rw [ready]; exact List.mem_cons_of_mem _ mem⟩
  · exact .inr waiting

/-- When the clock moves to what is due, what is carried is carried on. -/
theorem pass (u : Underway E s₀ timeline h) (idle : h.scheduler.ready = []) (due : h.scheduler.nextDue = some time) :
    Underway E s₀ timeline { h with scheduler := h.scheduler.advance time } ∧ (h.scheduler.advance time).ready ≠ [] := by
  obtain ⟨listed, first⟩ := List.min?_eq_some_iff.1 due
  obtain ⟨w, mem, soon⟩ := List.mem_map.1 listed
  have first : ∀ q ∈ h.scheduler.waiting, time ≤ q.1 := fun q mem => first q.1 (List.mem_map_of_mem mem)
  have later : h.scheduler.now ≤ time := soon ▸ u.later w mem
  have tasks := h.scheduler.tasks_advance time
  have load : (load { h with scheduler := h.scheduler.advance time } none).Perm (h.load none) :=
    List.Perm.append_right _ (tasks.map _)
  have woken : w.2 ∈ (h.scheduler.advance time).ready :=
    List.mem_append_right _ (List.mem_map.2 ⟨w, List.mem_filter.2 ⟨mem, by simp [soon]⟩, rfl⟩)
  refine ⟨⟨⟨u.written, fun p mem => Nat.le_trans (u.past p mem) later, fun p mem => ?_, fun p entry => ?_, u.parked,
    load.nodup_iff.2 u.once, fun x unfinished => load.mem_iff.2 (u.carried x unfinished)⟩, u.faces, fun _ => ?_⟩,
    List.ne_nil_of_mem woken⟩
  · exact Nat.le_of_lt (Scheduler.lt_of_mem_waiting_advance mem)
  · exact u.fits p ((Scheduler.mem_entries_advance idle first).1 entry)
  · exact List.ne_nil_of_mem (List.mem_append_left _ woken)

/-- **A turn keeps the simulation underway, and is paid for.** -/
theorem turn (u : Underway E (start rpc r) timeline h) (informs : E.Informs) (turned : h.turn = some h') :
    ∃ timeline', Underway E (start rpc r) timeline' h' ∧ h'.weight < h.weight := by
  unfold Simulation.turn at turned
  split at turned
  · cases turned
  · next unfinished =>
    have unfinished : h.sync.result? = none := by simpa using unfinished
    cases ready : h.scheduler.ready with
    | cons t rest =>
      have next : h.scheduler.next? = some (t, { h.scheduler with ready := rest }) := by rw [Scheduler.next?, ready]
      rw [next] at turned
      cases turned
      have fits := u.fits (h.scheduler.now, t) (Scheduler.mem_entries.2 (.inl ⟨rfl, ready ▸ List.mem_cons_self⟩))
      obtain ⟨timeline', underway, less⟩ := Going.perform informs (u.pop ready) u.faces fits unfinished
      refine ⟨timeline', underway, ?_⟩
      have less : (perform { h with scheduler := { h.scheduler with ready := rest } } t).sync.left < h.sync.left := less
      unfold weight
      split <;> split <;> omega
    | nil =>
      have next : h.scheduler.next? = none := by rw [Scheduler.next?, ready]
      cases due : h.scheduler.nextDue with
      | none => rw [next, due] at turned; cases turned
      | some time =>
        rw [next, due] at turned
        cases turned
        obtain ⟨underway, woken⟩ := u.pass ready due
        refine ⟨timeline, underway, ?_⟩
        unfold weight
        rw [if_neg woken, if_pos ready]
        exact Nat.lt_succ_self _

/-- **When no turn is left, the reading is over.** -/
theorem over_of_stuck (u : Underway E s₀ timeline h) (stuck : h.turn = none) : h.sync.result? ≠ none := by
  intro unfinished
  unfold Simulation.turn at stuck
  rw [unfinished, Option.isSome_none, if_neg Bool.false_ne_true] at stuck
  have idle : h.scheduler.tasks = [] := by
    cases ready : h.scheduler.next? with
    | some next => rw [ready] at stuck; cases stuck
    | none =>
      cases due : h.scheduler.nextDue with
      | some time => rw [ready, due] at stuck; cases stuck
      | none => exact Scheduler.tasks_eq_nil ready due
  -- nobody is being read, so nobody can wait for room
  have empty : h.backlog = [] := by
    by_contra waits
    exact u.window waits idle
  have load : h.load none = [] := by
    unfold Simulation.load
    rw [idle, empty]
    rfl
  refine result?_ne_none (fun x unfinished => ?_) unfinished
  have carried := u.carried x unfinished
  rw [load] at carried
  cases carried

/-- **As many turns as may be left bring a reading to its end.** -/
theorem turns {n : Nat} (u : Underway E (start rpc r) timeline h) (informs : E.Informs) (enough : h.weight ≤ n) :
    ∃ timeline', Timeline E (start rpc r) timeline' (turns n h).sync ∧ (turns n h).sync.result? ≠ none := by
  induction n generalizing h timeline with
  | zero =>
    refine ⟨timeline, u.written, u.over_of_stuck ?_⟩
    cases turned : h.turn with
    | none => rfl
    | some h' =>
      obtain ⟨_, -, less⟩ := u.turn informs turned
      omega
  | succ n ih =>
    rw [Simulation.turns]
    cases turned : h.turn with
    | none => exact ⟨timeline, u.written, u.over_of_stuck turned⟩
    | some h' =>
      obtain ⟨timeline', underway, less⟩ := u.turn informs turned
      exact ih underway (by omega)

end Underway

/-- At the start the funding account is about to begin, and all workers are in the backlog. -/
theorem underway_start (rpc : String) (r : Registry) {net : Net} {endpoint : Nat}
    (there : net.endpoints[endpoint]? = some E) (now : Nat) :
    Underway E (start rpc r) []
      ⟨start rpc r, net, endpoint, (Scheduler.idle now).enqueue (.begin .funding), List.range r.workers.size⟩ := by
  have stage (x : Holder) {old : Account} (mine : (start rpc r).account? x = some old) :
      (start rpc r).stage? x = some .waiting := by
    rw [stage?_start, mine, Option.map_some]
  refine ⟨⟨.nil, nofun, nofun, fun p entry => ?_, fun i parked => ?_, ?_, fun x unfinished => ?_⟩, there,
    fun _ => List.cons_ne_nil _ _⟩
  · obtain rfl : p = (now, .begin .funding) := List.mem_singleton.1 entry
    exact ⟨⟨stage .funding rfl, .inl rfl⟩, trivial⟩
  · exact stage (.worker i) (Array.getElem?_eq_getElem (List.mem_range.1 parked))
  · have distinct : ((List.range r.workers.size).map Holder.worker).Nodup :=
      List.Nodup.map (fun _ _ same => Holder.worker.inj same) List.nodup_range
    refine List.nodup_cons.2 ⟨fun mem => ?_, distinct⟩
    obtain ⟨i, -, same⟩ := List.mem_map.1 mem
    cases same
  · cases x with
    | funding => exact List.mem_cons_self
    | worker i =>
      obtain ⟨st, here, -⟩ := unfinished
      have inside : i < r.workers.size := by
        have bounds := (Array.getElem?_eq_some_iff.1 here).1
        rwa [show (start rpc r).workers.size = r.workers.size from Array.size_replicate] at bounds
      exact List.mem_cons_of_mem _ (List.mem_map_of_mem (List.mem_range.2 inside))

/-- At the start every account needs all its events. -/
theorem left_start (rpc : String) (r : Registry) : (start rpc r).left = 3 * (r.workers.size + 1) := by
  have workers : ((start rpc r).workers.toList.map Stage.left).sum = r.workers.size * 3 := by
    simp [start, Stage.left]
  rw [left, workers]
  show 3 + r.workers.size * 3 = 3 * (r.workers.size + 1)
  omega

end Simulation

/-- **A reading that is played comes to an outcome**, if the endpoint leaves no question without an answer. -/
theorem play_outcome (rpc : String) (r : Registry) {net : Net} {endpoint : Nat}
    (there : net.endpoints[endpoint]? = some E) (informs : E.Informs) (now : Nat) :
    ∃ timeline, Timeline E (start rpc r) timeline ((start rpc r).play net endpoint now).sync ∧
      Outcome r (timeline.map (·.2)) ((start rpc r).play net endpoint now).sync := by
  have begun := Simulation.underway_start rpc r there now
  have enough : Simulation.weight ⟨start rpc r, net, endpoint, (Scheduler.idle now).enqueue (.begin .funding),
      List.range r.workers.size⟩ ≤ Simulation.turnsPerAccount * ((List.range r.workers.size).length + 1) := by
    have ready : ((Scheduler.idle now).enqueue (Task.begin .funding)).ready ≠ [] := List.cons_ne_nil _ _
    rw [Simulation.weight, if_neg ready, Simulation.left_start, List.length_range, Simulation.turnsPerAccount]
    omega
  obtain ⟨timeline, written, ends⟩ := begun.turns informs enough
  exact ⟨timeline, written, written.execution.outcome ends⟩

/-- **The reading of all accounts leaves every account whole**: with both values that were read, or as it was.

First, whatever the events are and in whatever order they come, those that happen make up an execution, and after it every
account is what it was before, or has both the nonce and the balance that the execution tells. A reading that is over has come
to one of two outcomes. If the funding account could not be read, nothing was asked about any worker, the registry is the
same, and the failure is the result. If it was read, every worker was tried once, whatever came of the others, and has
both its new values or both its old ones; the result is a success exactly if all workers were read, and otherwise the
first failure of a worker in the order of the execution.

Second, played against an endpoint that answers every question, with whatever values, failures and delays, every reading
comes to such an outcome. Its execution is a timeline: question number `k` gets entry number `k` of the endpoint's script, and
the answer comes when its delay is over. -/
theorem accounts_atomic (rpc : String) (r : Registry) :
    (∀ events, ∃ execution, execution.Sublist events ∧ Execution (start rpc r) execution ((start rpc r).after events) ∧
      (∀ x old, (start rpc r).account? x = some old →
        ((start rpc r).after events).account? x = some old ∨
          ∃ n b, Reads execution x n b ∧ ((start rpc r).after events).account? x = some (old.withState n b)) ∧
      (((start rpc r).after events).result? ≠ none → Outcome r execution ((start rpc r).after events))) ∧
    ∀ (net : Net) (endpoint now : Nat) (E : Endpoint), net.endpoints[endpoint]? = some E → E.Informs →
      ∃ timeline, Timeline E (start rpc r) timeline ((start rpc r).play net endpoint now).sync ∧
        Outcome r (timeline.map (·.2)) ((start rpc r).play net endpoint now).sync := by
  refine ⟨fun events => ?_, fun net endpoint now E there informs => play_outcome rpc r there informs now⟩
  obtain ⟨execution, part, led⟩ := (start rpc r).exists_execution events
  refine ⟨execution, part, led, fun x old mine => ?_, led.outcome⟩
  obtain ⟨st, current, -, account, course⟩ := led.course mine
  rw [account]
  exact course.whole.imp (congrArg some) fun ⟨n, b, reads, same⟩ => ⟨n, b, reads, congrArg some same⟩

/-- Two workers, of which one can be read: the endpoint refuses every question about a nonce but the first two. -/
theorem accounts_atomic_mixed :
    let account (nonce : Nat) : Account := ⟨⟨1, by decide, by decide⟩, .zero, 1337, nonce, 0⟩
    let r : Registry := ⟨account 3, #[account 4, account 5], 0⟩
    let refusal : Network.Entry Nat := ⟨0, false, some (.plain .noAccounts), none⟩
    let E : Endpoint := { Endpoint.usual with
      nonce := ⟨.lastRepeats [⟨0, false, none, some 7⟩, ⟨20, false, none, some 8⟩, refusal], 0⟩ }
    let played := ((start "" r).play ⟨#[E], #[]⟩ 0 0).sync
    E.Informs ∧
      (∃ timeline, Timeline E (start "" r) timeline played ∧ Outcome r (timeline.map (·.2)) played) ∧
      played.result?.map Except.isOk = some false ∧
      played.registry.workers.toList.map (fun a => (a.nextNonce, a.balance)) =
        [(8, Endpoint.usualBalance), (5, 0)] := by
  intro account r refusal E played
  have informs : E.Informs := by
    refine ⟨fun n => ?_, fun n => rfl⟩
    match n with
    | 0 | 1 => rfl
    | n + 2 =>
      have last : min (n + 2) 2 = 2 := Nat.min_eq_right (Nat.le_add_left 2 n)
      exact congrArg (fun k => ([_, _, refusal].getD k .plain).hang) last
  exact ⟨informs, (accounts_atomic "" r).2 ⟨#[E], #[]⟩ 0 0 E rfl informs, by decide +kernel, by decide +kernel⟩

end Sync

end TxLoad
