import TxLoad.Proofs.Scheduler
import TxLoad.Proofs.Funding.Endings
import TxLoad.Proofs.Network.Serving
import Mathlib.Data.List.Perm.Basic

/-!
# What carries a transfer on

A transfer goes on when a task is performed. In a simulation, every transfer that can go on has one task that carries it
on, or it is in the backlog, or it is the one that is being carried on just now; and the task fits the stage of its
transfer.

- `Task.carries?` is the transfer that a task carries on, `Task.Fits` says that the task fits its stage;
- `Simulation.load` lists what is carried; `Carried` says that nothing is carried twice and nothing that can go on is
  forgotten;
- `Simulation.weight` bounds the turns that are left; **an event keeps what is carried, and pays with the stage of its
  transfer for the tasks that it adds** (`Going.event`).
-/

namespace TxLoad

namespace Funding

/-! ## Tasks -/

namespace Task

/-- The transfer that a task carries on. Of the two that end a wait it is the deadline: an answer may come as well. -/
def carries? : Task → Option Nat
  | begin k | quoted k _ _ | granted k | sent k _ _ _ | resynced k _ _ _ | expired k => some k
  | answered _ _ _ _ => none

/-- A task that is performed from time `due` on suits a stage of its transfer, if `mine` says that the transfer has the
lock. -/
def Suits (s : Setup) (due : Nat) (mine : Prop) : Task → Stage → Prop
  | begin _, .requested => True
  | quoted _ _ _, .quoting _ => True
  | granted _, .queued _ => mine
  | sent _ i _ _, .sending o _ => o.endpoint = i
  | resynced _ _ _ _, .resyncing _ _ => True
  | expired _, .awaiting _ _ since => s.deadline since ≤ due
  | expired _, .done _ => True
  | _, _ => False

/-- A task fits if it suits the stage of the transfer that it carries on. -/
def Fits (s : Setup) (f : Funder) (due : Nat) (t : Task) : Prop :=
  ∀ k, t.carries? = some k → ∃ st, f.stage? k = some st ∧ t.Suits s due (f.holder = some k) st

variable {s : Setup} {f f' : Funder} {due due' : Nat} {t : Task} {k : Nat}

theorem Suits.mono {mine mine' : Prop} {st : Stage} (h : t.Suits s due mine st) (le : due ≤ due')
    (holder : mine → mine') : t.Suits s due' mine' st := by
  cases t <;> cases st <;> first | exact h | exact holder h | exact Nat.le_trans h le

theorem Suits.holder_of_queued {mine : Prop} {o : Offer} (h : t.Suits s due mine (.queued o)) : mine := by
  cases t <;> first | exact h | exact h.elim

theorem Suits.done_of_awaiting {mine mine' : Prop} {o : Offer} {u : SignedTransaction} {since : Nat}
    {r : Except Failure Confirmation} (h : t.Suits s due mine (.awaiting o u since)) :
    t.Suits s due' mine' (.done r) := by
  cases t <;> first | exact trivial | exact h.elim

theorem Fits.frame (h : t.Fits s f due) (same : ∀ k, t.carries? = some k → f'.stage? k = f.stage? k)
    (holder : ∀ k, t.carries? = some k → f.holder = some k → f'.holder = some k) : t.Fits s f' due := by
  intro k carries
  obtain ⟨st, here, suits⟩ := h k carries
  exact ⟨st, (same k carries).trans here, suits.mono (Nat.le_refl due) (holder k carries)⟩

theorem Fits.later (h : t.Fits s f due) (le : due ≤ due') : t.Fits s f due' := by
  intro k carries
  obtain ⟨st, here, suits⟩ := h k carries
  exact ⟨st, here, suits.mono le id⟩

end Task

/-! ## What is carried -/

namespace Stage

/-- The turns that a transfer still has to pay for, at most. -/
def ahead : Stage → Nat
  | requested => 9
  | quoting _ => 7
  | queued _ => 6
  | sending _ _ => 4
  | _ => 0

/-- The turns that the next call of a transfer costs. -/
def debt : Stage → Nat
  | quoting _ | sending _ _ | resyncing _ _ => 2
  | awaiting _ _ _ => 4
  | _ => 0

end Stage

/-- A transfer can go on: it is not over, and does not wait for the lock. -/
def Funder.Moving (f : Funder) (k : Nat) : Prop :=
  ∃ st, f.stage? k = some st ∧ st.isDone = false ∧ (st.isQueued → f.holder = some k)

namespace Simulation

/-- The transfers that tasks carry on, those of the backlog, and the one that is being carried on just now. -/
def load (h : Simulation) (busy : Option Nat) : List Nat :=
  busy.toList ++ h.scheduler.tasks.filterMap Task.carries? ++ h.backlog

/-- The turns that are left, at most: one for what is ready, two for what waits, and those that the transfers still pay
for. -/
def weight (h : Simulation) : Nat :=
  h.scheduler.ready.length + 2 * h.scheduler.waiting.length + h.funder.queue.length + h.backlog.length +
    h.funder.sumOver Stage.ahead

variable {h h' : Simulation} {busy : Option Nat} {t : Task}

/-- A transfer is handed the lock if it waits for the lock and has it newly. -/
theorem handed?_eq_some {before : Funder} {j : Nat} :
    h.handed? before = some j ↔
      h.funder.holder ≠ before.holder ∧ h.funder.holder = some j ∧ ∃ o, h.funder.stage? j = some (.queued o) := by
  unfold handed?
  constructor
  · intro handed
    split at handed
    · cases handed
    · next moved =>
      obtain ⟨holder, queued⟩ := Option.filter_eq_some_iff.1 handed
      refine ⟨moved, holder, ?_⟩
      split at queued
      · next o there => exact ⟨o, there⟩
      · cases queued
  · rintro ⟨moved, holder, o, queued⟩
    rw [if_neg moved, holder, Option.filter_some, queued]
    rfl

/-- The scheduler after an event: a transfer that is handed the lock is ready. -/
theorem advanced_cases (s : Setup) (h : Simulation) (e : Event) :
    (∃ j, { h with funder := h.funder.step s e }.handed? h.funder = some j ∧
        h.advanced s e = { h with funder := h.funder.step s e, scheduler := h.scheduler.enqueue (.granted j) }) ∨
      { h with funder := h.funder.step s e }.handed? h.funder = none ∧
        h.advanced s e = { h with funder := h.funder.step s e } := by
  unfold advanced
  dsimp only
  split
  · next j handed => exact .inl ⟨j, handed, rfl⟩
  · next none => exact .inr ⟨none, rfl⟩

/-- A task more is a transfer more, if the task carries one on. -/
theorem load_of_task (tasks : h'.scheduler.tasks.Perm (t :: h.scheduler.tasks)) (backlog : h'.backlog = h.backlog) :
    (h'.load busy).Perm (t.carries?.toList ++ h.load busy) := by
  have carried : (h'.scheduler.tasks.filterMap Task.carries?).Perm
      (t.carries?.toList ++ h.scheduler.tasks.filterMap Task.carries?) := by
    refine (tasks.filterMap _).trans (List.Perm.of_eq ?_)
    cases carries : t.carries? <;> simp [carries]
  unfold load
  rw [backlog, ← List.append_assoc, ← List.append_assoc]
  refine List.Perm.append_right h.backlog ((carried.append_left busy.toList).trans ?_)
  rw [← List.append_assoc]
  exact List.Perm.append_right _ List.perm_append_comm

theorem load_enqueue (h : Simulation) (busy : Option Nat) (t : Task) :
    ((h.enqueue t).load busy).Perm (t.carries?.toList ++ h.load busy) :=
  load_of_task (h.scheduler.tasks_enqueue t) rfl

theorem load_putOff (h : Simulation) (busy : Option Nat) (delay : Nat) (t : Task) :
    ((h.putOff delay t).load busy).Perm (t.carries?.toList ++ h.load busy) :=
  load_of_task (h.scheduler.tasks_putOff _ t) rfl

/-- A transfer that is over leaves the load as it is: what it lets in was in the backlog. -/
theorem load_close (h : Simulation) (busy : Option Nat) (k : Nat) : ((h.close k).load busy).Perm (h.load busy) := by
  unfold close
  dsimp only
  split
  · exact .refl _
  · next next backlog waits =>
    let rest := { h with backlog := backlog, ended := h.ended ++ [k] }
    refine (load_enqueue rest busy (.begin next)).trans ?_
    unfold load
    rw [waits]
    show (next :: (busy.toList ++ h.scheduler.tasks.filterMap Task.carries? ++ backlog)).Perm _
    exact List.perm_middle.symm

end Simulation

/-! ## Tasks -/

/-- **Whatever can go on is carried**, once, by a task that fits; or it is in the backlog, or it is `busy`. -/
structure Carried (s : Setup) (h : Simulation) (busy : Option Nat) : Prop where
  clock : h.funder.now = h.scheduler.now
  later : ∀ p ∈ h.scheduler.waiting, h.scheduler.now ≤ p.1
  orderly : Orderly h.funder
  placed : Placed h.funder
  fits : ∀ p ∈ h.scheduler.entries, p.2.Fits s h.funder p.1
  parked : ∀ k ∈ h.backlog, h.funder.stage? k = some .requested
  once : (h.load busy).Nodup
  carried : ∀ k, h.funder.Moving k → k ∈ h.load busy

namespace Carried

variable {s : Setup} {h : Simulation} {busy : Option Nat} {k : Nat} {a b : Stage} {e : Event} {f' : Funder}

/-- What is carried on is carried by a task that suits its stage, or it is requested, or it is busy. -/
theorem cases_load (c : Carried s h busy) {j : Nat} (mem : j ∈ h.load busy) :
    busy = some j ∨ h.funder.stage? j = some .requested ∨
      ∃ due t st, (due, t) ∈ h.scheduler.entries ∧ t.carries? = some j ∧ h.funder.stage? j = some st ∧
        t.Suits s due (h.funder.holder = some j) st := by
  unfold Simulation.load at mem
  rcases List.mem_append.1 mem with mem | parked
  · rcases List.mem_append.1 mem with own | carried
    · exact .inl (Option.mem_toList.1 own)
    · obtain ⟨t, listed, carries⟩ := List.mem_filterMap.1 carried
      obtain ⟨due, entry⟩ := Scheduler.exists_entry listed
      obtain ⟨st, here, suits⟩ := c.fits _ entry j carries
      exact .inr (.inr ⟨due, t, st, entry, carries, here, suits⟩)
  · exact .inr (.inl (c.parked j parked))

/-- While a transfer is busy, no task carries it on. -/
theorem not_carries (c : Carried s h (some k)) {p : Nat × Task} (entry : p ∈ h.scheduler.entries) :
    p.2.carries? ≠ some k := by
  intro carries
  have once := c.once
  unfold Simulation.load at once
  rw [Option.toList_some, List.append_assoc, List.singleton_append, List.nodup_cons] at once
  refine once.1 (List.mem_append_left _ (List.mem_filterMap.2 ⟨p.2, ?_, carries⟩))
  rcases Scheduler.mem_entries.1 entry with ⟨-, ready⟩ | waiting
  · exact List.mem_append_left _ ready
  · exact List.mem_append_right _ (List.mem_map.2 ⟨p, waiting, rfl⟩)

/-- While a transfer is busy, it is not in the backlog. -/
theorem not_parked (c : Carried s h (some k)) : k ∉ h.backlog := by
  intro mem
  have once := c.once
  unfold Simulation.load at once
  rw [Option.toList_some, List.append_assoc, List.singleton_append, List.nodup_cons] at once
  exact once.1 (List.mem_append_right _ mem)

/-- The lock of another transfer stays. -/
theorem holder_of_transition (orderly : Orderly h.funder) (here : h.funder.stage? k = some a)
    (p : Transition s h.funder k a b f') {j : Nat} (other : k ≠ j) (holder : h.funder.holder = some j) :
    f'.holder = some j := by
  have not_mine (mine : h.funder.holder = none ∨ h.funder.holder = some k) : False := by
    rcases mine with free | mine
    · cases free.symm.trans holder
    · exact other (Option.some.inj (mine.symm.trans holder))
  cases p with
  | ask comes lock | drop comes lock | reject comes lock | receive comes lock | lapse comes lock =>
    rw [lock.holder, holder]
  | line comes early taken keeps => rw [keeps, holder]
  | sign comes may | refuse comes may => exact (not_mine (Orderly.holder_of_may may)).elim
  | accept comes lock | reread comes lock => exact (not_mine (.inr (orderly.locked k _ here rfl))).elim

/-- Whose stage an event ends: that of the busy transfer, or that of one whose receipt is waited for. -/
def Ends (busy : Option Nat) (k : Nat) (a b : Stage) : Prop :=
  busy = some k ∨ busy = none ∧ (∃ o t since, a = .awaiting o t since) ∧ ∃ r, b = .done r

/-- What fits before an event fits afterwards. -/
theorem fits_of_transition (c : Carried s h busy) (here : h.funder.stage? k = some a)
    (p : Transition s h.funder k a b f') (ends : Ends busy k a b) {q : Nat × Task} (entry : q ∈ h.scheduler.entries) :
    q.2.Fits s f' q.1 := by
  intro j carries
  obtain ⟨st, there, suits⟩ := c.fits q entry j carries
  by_cases same : k = j
  · subst same
    rcases ends with rfl | ⟨-, ⟨o, t, since, rfl⟩, r, rfl⟩
    · exact absurd carries (c.not_carries entry)
    · cases here.symm.trans there
      refine ⟨.done r, ?_, suits.done_of_awaiting⟩
      rw [p.stage? here, if_pos rfl]
  · refine ⟨st, ?_, suits.mono (Nat.le_refl _) (holder_of_transition c.orderly here p same)⟩
    rw [p.stage? here, if_neg same, there]

/-- A transfer that is handed the lock waited for it, and nothing carried it. -/
theorem not_mem_load_of_handed (c : Carried s h busy) (here : h.funder.stage? k = some a)
    (p : Transition s h.funder k a b (h.funder.step s e)) (ends : Ends busy k a b) {j : Nat}
    (handed : { h with funder := h.funder.step s e }.handed? h.funder = some j) : j ∉ h.load busy := by
  obtain ⟨moved, holder, o, queued⟩ := Simulation.handed?_eq_some.1 handed
  have other : k ≠ j := by
    rintro rfl
    rw [p.stage? here, if_pos rfl] at queued
    cases queued
    -- who joins the queue takes the lock from nobody
    cases p with
    | line comes early taken keeps => exact moved keeps
  have old : h.funder.stage? j = some (.queued o) := by
    rwa [p.stage? here, if_neg other] at queued
  intro mem
  rcases c.cases_load mem with busy | requested | ⟨due, t, st, entry, carries, there, suits⟩
  · rcases ends with own | ⟨none, -⟩
    · exact other (Option.some.inj (own.symm.trans busy))
    · cases none.symm.trans busy
  · cases old.symm.trans requested
  · cases old.symm.trans there
    have held := suits.holder_of_queued
    exact moved (holder.trans held.symm)

/-- What can go on after an event was carried before, or was handed the lock. -/
theorem mem_load_or_handed (c : Carried s h busy) (here : h.funder.stage? k = some a)
    (p : Transition s h.funder k a b (h.funder.step s e)) (ends : Ends busy k a b) {j : Nat}
    (moving : (h.funder.step s e).Moving j) :
    j ∈ h.load busy ∨ { h with funder := h.funder.step s e }.handed? h.funder = some j := by
  obtain ⟨st, there, open_, holder⟩ := moving
  by_cases same : k = j
  · subst same
    rw [p.stage? here, if_pos rfl] at there
    cases there
    rcases ends with rfl | ⟨-, -, r, rfl⟩
    · exact .inl (List.mem_append_left _ (List.mem_append_left _ (Option.mem_toList.2 rfl)))
    · cases open_
  · have before : h.funder.stage? j = some st := by rwa [p.stage? here, if_neg same] at there
    by_cases held : h.funder.holder = some j
    · exact .inl (c.carried j ⟨st, before, open_, fun _ => held⟩)
    · cases queued : st.isQueued with
      | false => exact .inl (c.carried j ⟨st, before, open_, fun yes => by simp [queued] at yes⟩)
      | true =>
        obtain ⟨o, rfl⟩ : ∃ o, st = .queued o := by
          cases st with
          | queued o => exact ⟨o, rfl⟩
          | _ => cases queued
        have mine := holder queued
        exact .inr (Simulation.handed?_eq_some.2 ⟨fun same => held (same.symm.trans mine), mine, o, there⟩)

/-- **An event keeps what is carried**, before a transfer that is over makes room. -/
theorem advanced (c : Carried s h busy) (here : h.funder.stage? k = some a)
    (p : Transition s h.funder k a b (h.funder.step s e)) (ends : Ends busy k a b) : Carried s (h.advanced s e) busy := by
  have orderly : Orderly (h.funder.step s e) := c.orderly.step s e
  have placed : Placed (h.funder.step s e) := c.placed.step s e
  have clock : (h.funder.step s e).now = h.scheduler.now := p.now.trans c.clock
  have parked : ∀ j ∈ h.backlog, (h.funder.step s e).stage? j = some .requested := by
    intro j mem
    have requested := c.parked j mem
    rw [p.stage? here, if_neg]
    · exact requested
    · rintro rfl
      rcases ends with rfl | ⟨-, ⟨o, t, since, rfl⟩, -⟩
      · exact c.not_parked mem
      · cases here.symm.trans requested
  have old : ∀ q ∈ h.scheduler.entries, q.2.Fits s (h.funder.step s e) q.1 :=
    fun q entry => c.fits_of_transition here p ends entry
  rcases Simulation.advanced_cases s h e with ⟨j, handed, after⟩ | ⟨none, after⟩
  · rw [after]
    obtain ⟨moved, holder, o, queued⟩ := Simulation.handed?_eq_some.1 handed
    have perm := Simulation.load_enqueue { h with funder := h.funder.step s e } busy (.granted j)
    refine ⟨clock, c.later, orderly, placed, fun q entry => ?_, parked, ?_, fun i moving => ?_⟩
    · rcases Scheduler.mem_entries_enqueue.1 entry with entry | rfl
      · exact old q entry
      · rintro i ⟨⟩
        exact ⟨_, queued, holder⟩
    · refine perm.nodup_iff.2 (List.nodup_cons.2 ⟨?_, c.once⟩)
      exact c.not_mem_load_of_handed here p ends handed
    · refine perm.mem_iff.2 ?_
      rcases c.mem_load_or_handed here p ends moving with mem | handed'
      · exact List.mem_append_right _ mem
      · cases handed.symm.trans handed'
        exact List.mem_append_left _ List.mem_cons_self
  · rw [after]
    refine ⟨clock, c.later, orderly, placed, old, parked, c.once, fun i moving => ?_⟩
    rcases c.mem_load_or_handed here p ends moving with mem | handed
    · exact mem
    · cases none.symm.trans handed

end Carried

/-! ## What an event costs -/

section Cost

variable {s : Setup} {h : Simulation} {busy : Option Nat} {k : Nat} {a b : Stage} {e : Event} {f f' : Funder}

theorem le_ahead_of_early (early : a.isEarly) : 7 ≤ a.ahead := by
  cases a with
  | requested => exact Nat.le_add_right 7 2
  | quoting i => exact Nat.le_refl 7
  | _ => cases early

theorem le_ahead_of_may (may : MayCheck f k a) : 6 ≤ a.ahead := by
  rcases may with ⟨early, -⟩ | ⟨queued, -⟩
  · have := le_ahead_of_early early
    omega
  · cases a <;> first | exact Nat.le_refl 6 | cases queued

/-- A transfer pays for its next call, and for its place in the queue. -/
theorem spend_le (p : Transition s f k a b f') : f'.queue.length + b.ahead + b.debt ≤ f.queue.length + a.ahead := by
  have shorter (lock : HandsOn f f') : f'.queue.length ≤ f.queue.length := by
    rw [lock.queue, List.length_tail]
    exact Nat.sub_le ..
  cases p with
  | ask comes lock =>
    rw [lock.queue]
    exact Nat.le_refl _
  | drop comes lock =>
    rw [lock.queue]
    exact Nat.add_le_add_left (Nat.zero_le _) _
  | line comes early taken holder queue =>
    have ahead := le_ahead_of_early early
    rw [queue, List.length_append]
    show f.queue.length + 1 + 6 + 0 ≤ f.queue.length + a.ahead
    omega
  | sign comes may holder queue =>
    have ahead := le_ahead_of_may may
    rw [queue]
    show f.queue.length + 4 + 2 ≤ f.queue.length + a.ahead
    omega
  | refuse comes may lock => exact Nat.le_trans (shorter lock) (Nat.le_add_right ..)
  | accept comes lock => exact Nat.add_le_add_right (shorter lock) 4
  | reject comes lock =>
    rw [lock.queue]
    show f.queue.length + 0 + 2 ≤ f.queue.length + 4
    omega
  | reread comes lock => exact shorter lock
  | receive comes lock | lapse comes lock =>
    rw [lock.queue]
    exact Nat.le_refl _

/-- A transfer that hands the lock on takes one out of the queue, and has paid for it. -/
theorem spend_of_handed (here : h.funder.stage? k = some a) (p : Transition s h.funder k a b (h.funder.step s e)) {j : Nat}
    (handed : { h with funder := h.funder.step s e }.handed? h.funder = some j) :
    (h.funder.step s e).queue.length + 1 + b.ahead + b.debt ≤ h.funder.queue.length + a.ahead := by
  obtain ⟨moved, holder, o, queued⟩ := Simulation.handed?_eq_some.1 handed
  have shorter (lock : HandsOn h.funder (h.funder.step s e)) :
      (h.funder.step s e).queue.length + 1 = h.funder.queue.length := by
    have first := lock.holder.symm.trans holder
    rw [lock.queue]
    cases queue : h.funder.queue with
    | nil =>
      rw [queue] at first
      cases first
    | cons x rest => rfl
  cases p with
  | ask comes lock | drop comes lock | reject comes lock | receive comes lock | lapse comes lock =>
    exact absurd lock.holder moved
  | line comes early taken keeps => exact absurd keeps moved
  | sign comes may mine =>
    obtain rfl : k = j := Option.some.inj (mine.symm.trans holder)
    change (h.funder.step s e).stage? k = _ at queued
    rw [Funder.stage?_reach here comes.transfers, if_pos rfl] at queued
    cases queued
  | refuse comes may lock => exact Nat.le_trans (Nat.le_of_eq (shorter lock)) (Nat.le_add_right ..)
  | accept comes lock =>
    have := shorter lock
    show (h.funder.step s e).queue.length + 1 + 0 + 4 ≤ h.funder.queue.length + 4
    omega
  | reread comes lock => exact Nat.le_of_eq (shorter lock)

/-- **An event pays for what it adds to the scheduler**, and for the next call of its transfer. -/
theorem weight_advanced (here : h.funder.stage? k = some a) (p : Transition s h.funder k a b (h.funder.step s e)) :
    (h.advanced s e).weight + b.debt ≤ h.weight := by
  obtain ⟨workers, comes⟩ := p.comes
  have ahead := Funder.sumOver_reach Stage.ahead here comes.transfers
  rcases Simulation.advanced_cases s h e with ⟨j, handed, after⟩ | ⟨none, after⟩
  · have spend := spend_of_handed here p handed
    rw [after]
    unfold Simulation.weight Scheduler.enqueue
    rw [List.length_append]
    dsimp only [List.length_singleton]
    omega
  · have spend := spend_le p
    rw [after]
    unfold Simulation.weight
    dsimp only
    omega

/-- Making room costs nothing: what is let in was in the backlog. -/
theorem weight_close (h : Simulation) (k : Nat) : (h.close k).weight = h.weight := by
  unfold Simulation.close
  dsimp only
  split
  · rfl
  · next next backlog waits =>
    unfold Simulation.weight Simulation.enqueue Scheduler.enqueue
    rw [waits]
    simp only [List.length_append, List.length_cons, List.length_nil]
    omega

end Cost

/-! ## Going on -/

/-- **A simulation goes on**: whatever can go on is carried, endpoints answer, and while there is a backlog some transfer
is under way that will let it in. -/
structure Going (s : Setup) (h : Simulation) (busy : Option Nat) : Prop extends Carried s h busy where
  window : h.backlog ≠ [] → ∃ k, k ∉ h.backlog ∧ ∃ st, h.funder.stage? k = some st ∧ st.isDone = false
  served : h.net.Serves h.funder.pool.good

namespace Going

variable {s : Setup} {h : Simulation} {busy : Option Nat} {k : Nat} {a b : Stage} {e : Event}

/-- A transfer that cannot go on needs not be carried. -/
theorem rest (g : Going s h (some k)) (still : ¬h.funder.Moving k) : Going s h none where
  toCarried := by
    have load : h.load (some k) = k :: h.load none := rfl
    have once := g.once
    rw [load, List.nodup_cons] at once
    refine ⟨g.clock, g.later, g.orderly, g.placed, g.fits, g.parked, once.2, fun j moving => ?_⟩
    have mem := g.carried j moving
    rw [load] at mem
    rcases List.mem_cons.1 mem with rfl | mem
    · exact absurd moving still
    · exact mem
  window := g.window
  served := g.served

theorem net (g : Going s h busy) {net : Network.Net} (served : net.Serves h.funder.pool.good) :
    Going s { h with net := net } busy :=
  ⟨⟨g.clock, g.later, g.orderly, g.placed, g.fits, g.parked, g.once, g.carried⟩, g.window, served⟩

/-- A task that fits may be put off, if nothing is carried twice then and nothing is forgotten. -/
theorem putOff_of_load {busy' : Option Nat} (g : Going s h busy) {delay : Nat} {t : Task}
    (fits : t.Fits s h.funder (h.now + delay)) (load : ((h.putOff delay t).load busy').Perm (h.load busy)) :
    Going s (h.putOff delay t) busy' where
  toCarried := by
    refine ⟨g.clock, fun p mem => ?_, g.orderly, g.placed, fun p entry => ?_, g.parked, ?_, fun j moving => ?_⟩
    · rcases List.mem_append.1 mem with old | new
      · exact g.later p old
      · cases List.mem_singleton.1 new
        exact Nat.le_add_right ..
    · rcases Scheduler.mem_entries_putOff.1 entry with old | rfl
      · exact g.fits p old
      · exact fits
    · exact load.nodup_iff.2 g.once
    · exact load.mem_iff.2 (g.carried j moving)
  window := g.window
  served := g.served

theorem putOff (g : Going s h (some k)) {delay : Nat} {t : Task} (carries : t.carries? = some k)
    (fits : t.Fits s h.funder (h.now + delay)) : Going s (h.putOff delay t) none := by
  refine g.putOff_of_load fits ((Simulation.load_putOff h none delay t).trans (List.Perm.of_eq ?_))
  rw [carries]
  rfl

/-- A task that carries nothing on may come to the scheduler. -/
theorem putOff_other (g : Going s h busy) {delay : Nat} {t : Task} (carries : t.carries? = none) :
    Going s (h.putOff delay t) busy := by
  refine g.putOff_of_load (fun j mine => ?_) ((Simulation.load_putOff h busy delay t).trans (List.Perm.of_eq ?_))
  · cases carries.symm.trans mine
  · rw [carries]
    rfl

theorem weight_putOff (h : Simulation) (delay : Nat) (t : Task) : (h.putOff delay t).weight = h.weight + 2 := by
  unfold Simulation.weight Simulation.putOff Scheduler.putOff
  simp only [List.length_append, List.length_cons, List.length_nil]
  omega

/-- After a transfer is over and has made room, something is under way while there is a backlog. -/
theorem close (c : Carried s h busy) (served : h.net.Serves h.funder.pool.good) (k : Nat) : Going s (h.close k) busy := by
  have load := Simulation.load_close h busy k
  have once := load.nodup_iff.2 c.once
  have carried := fun j (moving : h.funder.Moving j) => load.mem_iff.2 (c.carried j moving)
  unfold Simulation.close at once carried ⊢
  dsimp only at once carried ⊢
  split
  · next none =>
    exact ⟨⟨c.clock, c.later, c.orderly, c.placed, c.fits, c.parked, c.once, c.carried⟩,
      fun some => absurd none some, served⟩
  · next next backlog waits =>
    rw [waits] at once carried
    have requested : h.funder.stage? next = some .requested := c.parked next (by rw [waits]; exact List.mem_cons_self)
    refine ⟨⟨c.clock, c.later, c.orderly, c.placed, fun p entry => ?_, fun j mem => ?_, once, carried⟩, fun _ => ?_,
      served⟩
    · rcases Scheduler.mem_entries_enqueue.1 entry with old | rfl
      · exact c.fits p old
      · rintro j ⟨⟩
        exact ⟨_, requested, trivial⟩
    · exact c.parked j (by rw [waits]; exact List.mem_cons_of_mem _ mem)
    · refine ⟨next, fun mem => ?_, _, requested, rfl⟩
      have before := c.once
      unfold Simulation.load at before
      rw [waits] at before
      exact (List.nodup_cons.1 (List.nodup_append.1 before).2.1).1 mem

/-- **An event of a transfer keeps a simulation going**, and pays for what it adds and for the next call. -/
theorem event (g : Going s h busy) (here : h.funder.stage? k = some a)
    (p : Transition s h.funder k a b (h.funder.step s e)) (ends : Carried.Ends busy k a b) :
    Going s (h.event s k e) busy ∧ (h.event s k e).weight + b.debt ≤ h.weight := by
  have carried : Carried s (h.advanced s e) busy := g.advanced here p ends
  have cost : (h.advanced s e).weight + b.debt ≤ h.weight := weight_advanced here p
  have before : h.funder.result? k = none := Funder.result?_eq_none here p.onward
  have there : (h.funder.step s e).stage? k = some b := by rw [p.stage? here, if_pos rfl]
  have unchanged : (h.advanced s e).net = h.net ∧ (h.advanced s e).backlog = h.backlog := by
    rcases Simulation.advanced_cases s h e with ⟨j, -, after⟩ | ⟨-, after⟩ <;> rw [after] <;> exact ⟨rfl, rfl⟩
  have served : (h.advanced s e).net.Serves (h.advanced s e).funder.pool.good := by
    rw [unchanged.1, Simulation.funder_advanced, p.pool]
    exact g.served
  rw [Simulation.event_eq]
  split
  · rw [weight_close]
    exact ⟨close carried served k, cost⟩
  · next stays =>
    refine ⟨⟨carried, fun waits => ?_, served⟩, cost⟩
    rw [unchanged.2] at waits ⊢
    rw [Simulation.funder_advanced]
    obtain ⟨j, absent, st, here', open_⟩ := g.window waits
    refine ⟨j, absent, ?_⟩
    rw [p.stage? here]
    split
    · refine ⟨b, rfl, ?_⟩
      rw [← Bool.not_eq_true]
      intro finished
      refine stays ⟨before, ?_⟩
      cases b with
      | done r =>
        rw [Funder.result?_eq_some.2 there]
        exact nofun
      | _ => cases finished
    · exact ⟨st, here', open_⟩

end Going

end Funding

end TxLoad
