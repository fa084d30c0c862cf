import TxLoad.Dispatch.Run.Step

/-!
# The trace of a run

A run remembers counts, not how it came to them. Its trace does: the actions of its steps, in order. A dispatch is
admitted, gets its transaction, fails or is submitted, and a submitted transaction gets its verdict; a step does at
most one of these.

- `Stage.action?` reads an action off the stages of a dispatch before and after a step, `Run.action?` is the action of a step;
- `Run.trace` lists the actions of a sequence of events.
-/

namespace TxLoad

/-- The next nonce of a worker. -/
def Registry.nextNonce? (r : Registry) (worker : Nat) : Option Nat := r.workers[worker]?.map (·.nextNonce)

/-- The worker whose next nonce was handed out between two registries, with that nonce. -/
def Registry.reserved? (before after : Registry) : Option (Nat × Nat) :=
  ((List.range before.workers.size).find? fun w => before.nextNonce? w != after.nextNonce? w).bind fun w =>
    (before.nextNonce? w).map (w, ·)

namespace Dispatch

/-- What a step of a run does that counts. A failed dispatch may have used up the nonce of a worker: its loss. -/
inductive Action where
  | admitted (i : Nat)
  | assembled (i worker : Nat) (t : SignedTransaction)
  | failed (i : Nat) (loss : Option (Nat × Nat)) (e : Failure)
  | submitted (i : Nat) (p : Pending)
  | closed (i : Nat) (p : Pending) (v : Verdict)

namespace Stage

/-- The dispatch has no transaction yet. -/
def isUnassembled : Stage → Bool
  | admitted | quoting _ _ => true
  | _ => false

/-- The action of dispatch `i` between two stages; `handedOut` is the nonce that was handed out meanwhile. -/
def action? (i : Nat) (handedOut : Option (Nat × Nat)) : Stage → Stage → Option Action
  | admitted, sending _ worker t | quoting _ _, sending _ worker t => some (.assembled i worker t)
  | admitted, failed e | quoting _ _, failed e => some (.failed i handedOut e)
  | sending _ worker t, failed e => some (.failed i (some (worker, t.nonce)) e)
  | sending _ _ _, submitted p => some (.submitted i p)
  | watching _, closed p v => some (.closed i p v)
  | _, _ => none

@[simp] theorem action?_self (i : Nat) (handedOut : Option (Nat × Nat)) (st : Stage) : st.action? i handedOut st = none := by
  cases st <;> rfl

end Stage

/-- The dispatch that an event belongs to. -/
def Event.job? : Event → Option Nat
  | .begin i | .quoted i _ | .sent i _ | .watch i | .answered i _ | .expired i => some i
  | .resume | .refreshed _ | .pass _ => none

namespace Run

variable {s : Setup}

/-- The action of dispatch `i` on the way from one run to another. -/
def actionOf? (r r' : Run) (i : Nat) : Option Action :=
  match r.jobs[i]?, r'.jobs[i]? with
  | some a, some b => a.action? i (r.registry.reserved? r'.registry) b
  | _, _ => none

/-- The action of a step. -/
def action? (s : Setup) (r : Run) (e : Event) : Option Action :=
  match e.job? with
  | some i => r.actionOf? (r.step s e) i
  | none =>
    if r.context.counters.nextIndex < (r.step s e).context.counters.nextIndex
    then some (.admitted r.context.counters.nextIndex) else none

/-- The actions of a sequence of events. -/
def trace (s : Setup) : Run → List Event → List Action
  | _, [] => []
  | r, e :: events => (r.action? s e).toList ++ trace s (r.step s e) events

/-! ## One stretch after another -/

theorem after_append (s : Setup) (r : Run) (events events' : List Event) :
    r.after s (events ++ events') = (r.after s events).after s events' :=
  List.foldl_append ..

/-- The later actions are those of the run that was left. -/
theorem trace_append (s : Setup) (r : Run) (events events' : List Event) :
    r.trace s (events ++ events') = r.trace s events ++ (r.after s events).trace s events' := by
  induction events generalizing r with
  | nil => rfl
  | cons e events ih =>
    rw [List.cons_append, trace, trace, ih, List.append_assoc]
    rfl

/-- Every action of a trace was done by one of the steps. -/
theorem step_of_mem_trace {r : Run} {events : List Event} {d : Action} (mem : d ∈ r.trace s events) :
    ∃ before e later, events = before ++ e :: later ∧ (r.after s before).action? s e = some d := by
  induction events generalizing r with
  | nil => cases mem
  | cons e events ih =>
    rcases List.mem_append.1 mem with first | rest
    · exact ⟨[], e, events, rfl, Option.mem_toList.1 first⟩
    · obtain ⟨before, e', later, rfl, action⟩ := ih rest
      exact ⟨e :: before, e', later, rfl, action⟩

/-- An action is an admission, or that of the dispatch which the event belongs to, and can be read off its stages. -/
theorem stages_of_action? {r : Run} {e : Event} {d : Action} (done : r.action? s e = some d) :
    d = .admitted r.context.counters.nextIndex ∨
      ∃ i a b, e.job? = some i ∧ r.jobs[i]? = some a ∧ (r.step s e).jobs[i]? = some b ∧
        a.action? i (r.registry.reserved? (r.step s e).registry) b = some d := by
  unfold action? at done
  split at done
  · next i mine =>
    unfold actionOf? at done
    split at done
    · next a b here there => exact .inr ⟨i, a, b, mine, here, there, done⟩
    · cases done
  · split at done <;> cases done
    exact .inl rfl

/-! ## The nonce that a step hands out -/

theorem reserved?_of_workers_eq {a b : Registry} (h : b.workers = a.workers) : a.reserved? b = none := by
  have same : ∀ w, a.nextNonce? w = b.nextNonce? w := fun w => by simp [Registry.nextNonce?, h]
  simp [Registry.reserved?, same]

/-- A worker that reserves a nonce hands it out. -/
theorem reserved?_of_reserve {a b : Registry} {w : Nat} {account : Account} (hw : a.workers[w]? = some account)
    (h : b.workers = a.workers.modify w fun _ => account.reserve) : a.reserved? b = some (w, account.nextNonce) := by
  have lt : w < a.workers.size := (Array.getElem?_eq_some_iff.1 hw).1
  have old : a.nextNonce? w = some account.nextNonce := by simp [Registry.nextNonce?, hw]
  have new : b.nextNonce? w = some (account.nextNonce + 1) := by
    simp [Registry.nextNonce?, h, Array.getElem?_modify, hw, Account.reserve]
  have others : ∀ v, v < w → a.nextNonce? v = b.nextNonce? v := fun v hv => by
    have : w ≠ v := by omega
    simp [Registry.nextNonce?, h, Array.getElem?_modify, this]
  have found : ((List.range a.workers.size).find? fun v => a.nextNonce? v != b.nextNonce? v) = some w := by
    rw [List.find?_range_eq_some]
    refine ⟨by simp [old, new], List.mem_range.2 lt, fun v hv => ?_⟩
    simp [others v hv]
  simp [Registry.reserved?, found, old]

end Run

end Dispatch

end TxLoad
