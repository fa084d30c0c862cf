import TxLoad.Simulation.Funding
import TxLoad.Proofs.Funding.Transition

/-!
# Transfers that are played are events of the funder

A simulation decides which event comes next, how many transfers go on at once and which of them begins next; it does
nothing to the funder but apply events.

- `Simulation.Kept` is what a property of simulations has to keep so that playing keeps it (`Kept.play`): events of
  transfers, the passing of time, and any change of the network and the scheduler;
- what holds after every sequence of events holds for whatever is played (`play_reaches`), for transfers that are asked
  for together (`transferAll_reaches`), and for a top-up between what it says (`topUp_reaches`).
-/

namespace TxLoad.Funding

/-- Some sequence of events leads from one funder to the other. -/
def Funder.Reaches (s : Setup) (f f' : Funder) : Prop := ∃ events, f' = f.after s events

namespace Funder.Reaches

variable {s : Setup} {f f₁ f₂ : Funder}

theorem refl (f : Funder) : f.Reaches s f := ⟨[], rfl⟩

theorem trans (h₁ : f.Reaches s f₁) (h₂ : f₁.Reaches s f₂) : f.Reaches s f₂ := by
  obtain ⟨events₁, rfl⟩ := h₁
  obtain ⟨events₂, rfl⟩ := h₂
  exact ⟨events₁ ++ events₂, (after_append s f events₁ events₂).symm⟩

theorem step (e : Event) (h : f.Reaches s f₁) : f.Reaches s (f₁.step s e) := h.trans ⟨[e], rfl⟩

end Funder.Reaches

namespace Simulation

variable {s : Setup} {h : Simulation} {f : Funder}

/-- The simulation after an event; a transfer that is handed the lock is ready, and none that is over has made room. -/
def advanced (s : Setup) (h : Simulation) (e : Event) : Simulation :=
  let moved := { h with funder := h.funder.step s e }
  match moved.handed? h.funder with
  | some j => moved.enqueue (.granted j)
  | none => moved

theorem funder_advanced (s : Setup) (h : Simulation) (e : Event) : (h.advanced s e).funder = h.funder.step s e := by
  unfold advanced
  dsimp only
  split <;> rfl

/-- A transfer makes room when an event ends it. -/
theorem event_eq (s : Setup) (h : Simulation) (k : Nat) (e : Event) :
    h.event s k e =
      if h.funder.result? k = none ∧ (h.funder.step s e).result? k ≠ none then (h.advanced s e).close k
      else h.advanced s e := by
  have applied : h.event s k e =
      if !h.isDone k && (h.advanced s e).isDone k then (h.advanced s e).close k else h.advanced s e := rfl
  rw [applied]
  unfold isDone
  rw [funder_advanced]
  cases h.funder.result? k <;> cases (h.funder.step s e).result? k <;> simp

theorem funder_close (h : Simulation) (k : Nat) : (h.close k).funder = h.funder := by
  unfold close
  dsimp only
  split <;> rfl

/-- An event that is applied is one step of the funder. -/
theorem funder_event (s : Setup) (h : Simulation) (k : Nat) (e : Event) :
    (h.event s k e).funder = h.funder.step s e := by
  rw [event_eq]
  split
  · rw [funder_close, funder_advanced]
  · exact funder_advanced s h e

/-- An event that changes nothing of the funder changes nothing. -/
theorem event_of_same {k : Nat} {e : Event} (same : h.funder.step s e = h.funder) : h.event s k e = h := by
  have advanced : h.advanced s e = h := by
    unfold Simulation.advanced
    rw [same]
    unfold handed?
    dsimp only
    rw [if_pos rfl]
  rw [event_eq, advanced, same]
  split
  · next ends => exact absurd ends.1 ends.2
  · rfl

/-! ## What playing keeps -/

/-- **A property is kept** by every event of a transfer and when time passes, whatever happens to the network and the
scheduler. -/
structure Kept (s : Setup) (P : Simulation → Prop) : Prop where
  quiet : ∀ {h : Simulation} (net : Network.Net) (scheduler : Scheduler Task), P h → P { h with net := net, scheduler := scheduler }
  event : ∀ {h : Simulation} {k : Nat} {e : Event}, e.transfer? = some k → P h → P (h.event s k e)
  pass : ∀ {h : Simulation} (time : Nat), P h → P (h.pass s time)

namespace Kept

variable {P : Simulation → Prop} (kept : Kept s P)
include kept

theorem net (net : Network.Net) (holds : P h) : P { h with net := net } := kept.quiet net h.scheduler holds

theorem putOff (delay : Nat) (t : Task) (holds : P h) : P (h.putOff delay t) := kept.quiet h.net _ holds

theorem takeAnswered (k endpoint : Nat) (t : SignedTransaction) (answer : Except Failure Confirmation) (holds : P h) :
    P (h.takeAnswered s k endpoint t answer) := by
  unfold Simulation.takeAnswered
  split
  · exact kept.event rfl (kept.net _ holds)
  · exact holds

theorem watch (k : Nat) (holds : P h) : P (h.watch s k) := by
  unfold Simulation.watch
  split
  · dsimp only
    split
    · split
      · exact kept.event rfl (kept.net _ holds)
      · exact kept.putOff _ _ (kept.net _ holds)
    · split
      · exact kept.takeAnswered k _ _ _ (kept.net _ holds)
      · split
        · exact kept.event rfl (kept.putOff _ _ (kept.net _ holds))
        · exact kept.putOff _ _ (kept.putOff _ _ (kept.net _ holds))
  · exact holds

theorem takeResynced (k endpoint : Nat) (a : Address) (answer : Except Failure Nat) (holds : P h) :
    P (h.takeResynced s k endpoint a answer) :=
  kept.event rfl (kept.net _ holds)

theorem resync (k endpoint : Nat) (holds : P h) : P (h.resync s k endpoint) := by
  unfold Simulation.resync
  dsimp only
  split
  · exact kept.net _ holds
  · split
    · exact kept.takeResynced k _ _ _ (kept.net _ holds)
    · exact kept.putOff _ _ (kept.net _ holds)

theorem takeSent (k endpoint : Nat) (t : SignedTransaction) (answer : Except Failure Unit) (holds : P h) :
    P (h.takeSent s k endpoint t answer) := by
  have told : P ({ h with net := h.net.finish endpoint h.now (.sent answer.isOk t) }.event s k (.sent k answer)) :=
    kept.event rfl (kept.net _ holds)
  unfold Simulation.takeSent
  dsimp only
  split
  · exact kept.resync k endpoint told
  · exact kept.watch k told

theorem submit (k : Nat) (holds : P h) : P (h.submit s k) := by
  unfold Simulation.submit
  split
  · dsimp only
    split
    · exact kept.net _ holds
    · split
      · exact kept.takeSent k _ _ _ (kept.net _ holds)
      · exact kept.putOff _ _ (kept.net _ holds)
  · exact holds

theorem takeQuoted (k endpoint : Nat) (answer : Except Failure (Nat × Nat)) (holds : P h) :
    P (h.takeQuoted s k endpoint answer) :=
  kept.submit k (kept.event rfl (kept.net _ holds))

theorem quote (k : Nat) (holds : P h) : P (h.quote s k) := by
  unfold Simulation.quote
  split
  · dsimp only
    split
    · exact kept.net _ holds
    · split
      · exact kept.takeQuoted k _ _ (kept.net _ holds)
      · exact kept.putOff _ _ (kept.net _ holds)
  · exact kept.submit k holds

theorem perform (task : Task) (holds : P h) : P (h.perform s task) := by
  cases task with
  | begin k => exact kept.quote k (kept.event rfl holds)
  | quoted k endpoint answer => exact kept.takeQuoted k endpoint answer holds
  | granted k => exact kept.submit k (kept.event rfl holds)
  | sent k endpoint t answer => exact kept.takeSent k endpoint t answer holds
  | resynced k endpoint a answer => exact kept.takeResynced k endpoint a answer holds
  | answered k endpoint t answer => exact kept.takeAnswered k endpoint t answer holds
  | expired k => exact kept.event rfl holds

/-- Every turn keeps what is kept. -/
theorem turn {limit : Option Nat} {h' : Simulation} (turned : h.turn s limit = some h') (holds : P h) : P h' := by
  unfold Simulation.turn at turned
  split at turned
  · cases turned
  · split at turned
    · cases turned
      exact kept.perform _ (kept.quiet h.net _ holds)
    · cases turned
      exact kept.pass _ holds
    · split at turned <;> cases turned
      exact kept.pass _ holds
    · cases turned

/-- Any number of turns keeps what is kept. -/
theorem turns (limit : Option Nat) (n : Nat) (holds : P h) : P (h.turns s limit n) := by
  induction n generalizing h with
  | zero => exact holds
  | succ n ih =>
    rw [Simulation.turns]
    split
    · next turned => exact ih (kept.turn turned holds)
    · exact holds

/-- **Playing keeps what is kept.** -/
theorem play (limit : Option Nat) (holds : P h) : P (h.play s limit) := kept.turns limit _ holds

end Kept

/-! ## Sequences of events -/

/-- That some sequence of events leads to the funder is kept. -/
theorem kept_reaches (s : Setup) (f : Funder) : Kept s fun h => f.Reaches s h.funder where
  quiet _ _ reached := reached
  event {h k e} _ reached := by
    rw [funder_event]
    exact reached.step e
  pass time reached := reached.step (.pass time)

/-- **Whatever is played is reached by a sequence of events.** -/
theorem play_reaches (s : Setup) (limit : Option Nat) (h : Simulation) :
    h.funder.Reaches s (h.play s limit).funder :=
  (kept_reaches s h.funder).play limit (.refl h.funder)

theorem ask_reaches (s : Setup) (net : Network.Net) (f : Funder) (workers : List Nat) (window : Nat) :
    f.Reaches s (ask s net f workers window).funder :=
  ⟨workers.map .request, rfl⟩

end Simulation

namespace Funder

/-- **Transfers that are asked for together are a sequence of events.** -/
theorem transferAll_reaches (s : Setup) (net : Network.Net) (f : Funder) (workers : List Nat) (peek : Nat) :
    f.Reaches s (f.transferAll s net workers peek).funder := by
  have asked := Simulation.ask_reaches s net f workers workers.length
  unfold transferAll
  dsimp only
  split
  · exact (asked.trans (Simulation.play_reaches s none _)).step _
  · exact ((asked.trans (Simulation.play_reaches s _ _)).trans (Simulation.play_reaches s none _)).step _

/-- **Between what it says, a top-up is a sequence of events.** -/
theorem topUp_reaches (s : Setup) (net : Network.Net) (f : Funder) :
    ∃ before after events, (f.topUp s net).2.1 = ((f.sayAll before).after s events).sayAll after := by
  unfold topUp
  dsimp only
  generalize (if s.plan.disabled then [] else f.needy s) = needy
  split
  · exact ⟨topUpLog s needy, [], [], by simp [after, sayAll]⟩
  · have asked := Simulation.ask_reaches s net (f.sayAll (topUpLog s needy)) needy topUpWindow
    obtain ⟨events, played⟩ := asked.trans (Simulation.play_reaches s none _)
    exact ⟨topUpLog s needy, _, events, congrArg (sayAll · _) played⟩

end Funder

end TxLoad.Funding
