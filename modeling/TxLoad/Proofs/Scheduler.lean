import TxLoad.Scheduler
import Mathlib.Data.List.Perm.Basic
import Mathlib.Tactic.Tauto

/-!
# What a scheduler holds

What is to be done, ready or not, is counted once: `Scheduler.tasks` lists it, and `Scheduler.entries` says in addition from
when on it can be done. What is enqueued or put off is one task more; the clock loses none (`tasks_advance`), and if it
moves no further than to what is due first, all can be done when it could be done before (`mem_entries_advance`).
-/

namespace TxLoad

namespace Scheduler

variable {ε : Type} {a : Scheduler ε}

/-- All that is to be done. -/
def tasks (a : Scheduler ε) : List ε := a.ready ++ a.waiting.map (·.2)

/-- All that is to be done, with the time from which on it can be done. -/
def entries (a : Scheduler ε) : List (Nat × ε) := a.ready.map (a.now, ·) ++ a.waiting

/-- What is ready can be done now. -/
theorem mem_entries {p : Nat × ε} : p ∈ a.entries ↔ p.1 = a.now ∧ p.2 ∈ a.ready ∨ p ∈ a.waiting := by
  unfold entries
  rw [List.mem_append, List.mem_map]
  constructor
  · rintro (⟨e, mem, rfl⟩ | mem)
    · exact .inl ⟨rfl, mem⟩
    · exact .inr mem
  · rintro (⟨now, mem⟩ | mem)
    · exact .inl ⟨p.2, mem, by rw [← now]⟩
    · exact .inr mem

theorem exists_entry {e : ε} (mem : e ∈ a.tasks) : ∃ due, (due, e) ∈ a.entries := by
  rcases List.mem_append.1 mem with ready | waiting
  · exact ⟨a.now, mem_entries.2 (.inl ⟨rfl, ready⟩)⟩
  · obtain ⟨p, inside, rfl⟩ := List.mem_map.1 waiting
    exact ⟨p.1, mem_entries.2 (.inr inside)⟩

theorem mem_tasks {p : Nat × ε} (entry : p ∈ a.entries) : p.2 ∈ a.tasks := by
  rcases mem_entries.1 entry with ⟨-, ready⟩ | waiting
  · exact List.mem_append_left _ ready
  · exact List.mem_append_right _ (List.mem_map_of_mem waiting)

theorem mem_entries_enqueue {e : ε} {p : Nat × ε} :
    p ∈ (a.enqueue e).entries ↔ p ∈ a.entries ∨ p = (a.now, e) := by
  rw [mem_entries, mem_entries]
  simp only [enqueue, List.mem_append, List.mem_singleton, Prod.ext_iff]
  tauto

theorem mem_entries_putOff {e : ε} {due : Nat} {p : Nat × ε} :
    p ∈ (a.putOff due e).entries ↔ p ∈ a.entries ∨ p = (due, e) := by
  rw [mem_entries, mem_entries]
  simp only [putOff, List.mem_append, List.mem_singleton]
  tauto

theorem tasks_enqueue (a : Scheduler ε) (e : ε) : (a.enqueue e).tasks.Perm (e :: a.tasks) := by
  have same : (a.enqueue e).tasks = a.ready ++ e :: a.waiting.map (·.2) := by
    simp [tasks, enqueue]
  rw [same]
  exact List.perm_middle

theorem tasks_putOff (a : Scheduler ε) (due : Nat) (e : ε) : (a.putOff due e).tasks.Perm (e :: a.tasks) := by
  have same : (a.putOff due e).tasks = a.tasks ++ [e] := by
    simp [tasks, putOff]
  rw [same]
  exact List.perm_append_singleton e a.tasks

/-- The clock loses nothing of what is to be done. -/
theorem tasks_advance (a : Scheduler ε) (time : Nat) : (a.advance time).tasks.Perm a.tasks := by
  have same : (a.advance time).tasks =
      a.ready ++ (a.waiting.filter (·.1 ≤ time) ++ a.waiting.filter fun w => !decide (w.1 ≤ time)).map (·.2) := by
    simp [tasks, advance]
  rw [same]
  exact ((List.filter_append_perm _ a.waiting).map _).append_left a.ready

/-- When nothing is ready and the clock moves to what waits the least, all can be done when it could be done before. -/
theorem mem_entries_advance {time : Nat} {p : Nat × ε} (idle : a.ready = []) (first : ∀ q ∈ a.waiting, time ≤ q.1) :
    p ∈ (a.advance time).entries ↔ p ∈ a.entries := by
  rw [mem_entries, mem_entries, ready_advance, idle, List.nil_append]
  constructor
  · rintro (⟨now, ready⟩ | waiting)
    · obtain ⟨q, mem, same⟩ := List.mem_map.1 ready
      obtain ⟨mem, due⟩ := List.mem_filter.1 mem
      have time : q.1 = p.1 := (Nat.le_antisymm (of_decide_eq_true due) (first q mem)).trans now.symm
      rw [← Prod.ext time same]
      exact .inr mem
    · exact .inr (List.mem_of_mem_filter waiting)
  · rintro (⟨-, ready⟩ | waiting)
    · cases ready
    · by_cases due : p.1 ≤ time
      · exact .inl ⟨Nat.le_antisymm due (first p waiting),
          List.mem_map.2 ⟨p, List.mem_filter.2 ⟨waiting, decide_eq_true due⟩, rfl⟩⟩
      · exact .inr (List.mem_filter.2 ⟨waiting, by simp [due]⟩)

/-- A scheduler of which nothing is ready and nothing comes due has nothing to be done. -/
theorem tasks_eq_nil (unready : a.next? = none) (undue : a.nextDue = none) : a.tasks = [] := by
  have ready : a.ready = [] := by
    unfold next? at unready
    split at unready
    · next ready => exact ready
    · cases unready
  have waiting : a.waiting.map (·.1) = [] := List.min?_eq_none_iff.1 undue
  rw [tasks, ready, List.map_eq_nil_iff.1 waiting]
  rfl

end Scheduler

end TxLoad
