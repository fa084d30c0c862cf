import TxLoad.Simulation.Running

/-!
# A simulation is a run

A simulation decides which event comes next, and does nothing to the run but apply it. What holds after every sequence of
events holds for whatever is played (`play_reaches`).
-/

namespace TxLoad.Dispatch

/-- Some sequence of events leads from one run to the other. -/
def Run.Reaches (s : Setup) (r r' : Run) : Prop := ∃ events, r' = r.after s events

namespace Run.Reaches

variable {s : Setup} {r r₁ r₂ : Run}

theorem refl (r : Run) : r.Reaches s r := ⟨[], rfl⟩

theorem trans (h₁ : r.Reaches s r₁) (h₂ : r₁.Reaches s r₂) : r.Reaches s r₂ := by
  obtain ⟨events₁, rfl⟩ := h₁
  obtain ⟨events₂, rfl⟩ := h₂
  exact ⟨events₁ ++ events₂, (List.foldl_append ..).symm⟩

theorem step (e : Event) (h : r.Reaches s r₁) : r.Reaches s (r₁.step s e) := h.trans ⟨[e], rfl⟩

end Run.Reaches

namespace Simulation

variable {s : Setup} {h : Simulation} {r : Run} (reached : r.Reaches s h.run)
include reached

theorem reaches_event (e : Event) : r.Reaches s (h.event s e).run := reached.step e

theorem reaches_takeSent (i endpoint : Nat) (t : SignedTransaction) (answer : Except Failure Unit) :
    r.Reaches s (h.takeSent s i endpoint t answer).run := by
  have told := reaches_event reached (.sent i answer)
  unfold takeSent
  dsimp only
  split <;> exact told

theorem reaches_submit (i : Nat) : r.Reaches s (h.submit s i).run := by
  unfold submit
  split
  · dsimp only
    split
    · exact reached
    · split
      · exact reaches_takeSent (by exact reached) i _ _ _
      · exact reached
  · exact reached

theorem reaches_takeQuoted (i endpoint : Nat) (answer : Except Failure (Nat × Nat)) :
    r.Reaches s (h.takeQuoted s i endpoint answer).run :=
  reaches_submit (reaches_event (by exact reached) _) i

theorem reaches_quote (i : Nat) : r.Reaches s (h.quote s i).run := by
  unfold quote
  split
  · dsimp only
    split
    · exact reached
    · split
      · exact reaches_takeQuoted (by exact reached) i _ _
      · exact reached
  · exact reaches_submit reached i

theorem reaches_takeAnswered (i : Nat) (p : Pending) (answer : Except Failure Confirmation) :
    r.Reaches s (h.takeAnswered s i p answer).run := by
  unfold takeAnswered
  split
  · exact reaches_event (by exact reached) _
  · exact reached

theorem reaches_watch (i : Nat) : r.Reaches s (h.watch s i).run := by
  have begun : r.Reaches s (h.event s (.watch i)).run := reaches_event reached _
  unfold watch
  dsimp only
  split
  · next p _ =>
    split
    · cases p.deadline s.options.patience <;> exact begun
    · split
      · exact reaches_takeAnswered (by exact begun) i p _
      · cases p.deadline s.options.patience <;> exact begun
  · exact begun

theorem reaches_perform (task : Task) : r.Reaches s (h.perform s task).run := by
  cases task with
  | begin i => exact reaches_quote (reaches_event reached _) i
  | quoted i endpoint answer => exact reaches_takeQuoted reached i endpoint answer
  | sent i endpoint t answer => exact reaches_takeSent reached i endpoint t answer
  | watch i => exact reaches_watch reached i
  | answered i p answer => exact reaches_takeAnswered reached i p answer
  | expired i => exact reaches_event reached _

theorem reaches_resume : r.Reaches s (h.resume s).run := by
  have resumed := reaches_event reached .resume
  unfold resume
  dsimp only
  split <;> exact resumed

/-- A turn is a sequence of events. -/
theorem reaches_turn {limit : Nat} {h' : Simulation} (turned : h.turn s limit = some h') : r.Reaches s h'.run := by
  unfold turn at turned
  split at turned
  · cases turned
  · split at turned
    · split at turned
      · cases turned
        exact reaches_resume reached
      · split at turned <;> cases turned
        exact reached
    · split at turned
      · cases turned
        exact reaches_perform (by exact reached) _
      · split at turned <;> cases turned
        · exact reached
        · exact reaches_event reached (.pass _)

theorem reaches_turns (limit n : Nat) : r.Reaches s (turns s limit n h).run := by
  induction n generalizing h with
  | zero => exact reached
  | succ n ih =>
    rw [turns]
    split
    · next turned => exact ih (reaches_turn reached turned)
    · exact reached

omit reached in
/-- **Whatever is played is reached by a sequence of events.** -/
theorem play_reaches (s : Setup) (net : Network.Net) (r : Run) (limit : Nat) :
    r.Reaches s (play s net r limit).run :=
  reaches_turns (by exact .refl r) _ _

end Simulation

end TxLoad.Dispatch
