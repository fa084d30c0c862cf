import TxLoad.Funding.Funder

/-!
# The trace of a funder

A funder remembers amounts, not how it came to them. Its trace does: the actions of its events, in order. An action is
what the funding account has to do with the outside: a transaction is accepted, the nonce is read again, a receipt comes
in; or a nonce is lost because a transaction cannot be signed. An event does at most one of these.

- `Funder.action?` is the action of an event, `Funder.trace` lists those of a sequence of events;
- `Funder.split_trace`: every action was done by one of the events;
- `Action.cause?` is the event that does an action, if the action tells (`Funder.mem_of_cause?`).
-/

namespace TxLoad.Funding

/-- What an event does to the funding account that counts. -/
inductive Action where
  | unsigned (k : Nat) (e : Failure)
  | accepted (k : Nat) (t : SignedTransaction)
  | reread (k : Nat) (answer : Except Failure Nat)
  | received (k : Nat) (o : Offer) (c : Confirmation)

/-- The event that does an action, if the action tells. -/
def Action.cause? : Action → Option Event
  | unsigned _ _ => none
  | accepted k _ => some (.sent k (.ok ()))
  | reread k answer => some (.resynced k answer)
  | received k _ c => some (.answered k (.ok c))

namespace Funder

variable {s : Setup} {f : Funder}

/-- A transfer that is over used up a nonce on the way from one state to the other. -/
def unsigned? (f f' : Funder) (k : Nat) : Option Action :=
  match f'.stage? k with
  | some (.done (.error e)) =>
    if f.registry.funding.nextNonce < f'.registry.funding.nextNonce then some (.unsigned k e) else none
  | _ => none

/-- The action of an event. -/
def action? (s : Setup) (f : Funder) : Event → Option Action
  | .begin k => f.unsigned? (f.begin s k) k
  | .quoted k answer => f.unsigned? (f.quoted s k answer) k
  | .granted k => f.unsigned? (f.granted s k) k
  | .sent k (.ok ()) =>
    match f.stage? k with
    | some (.sending _ t) => some (.accepted k t)
    | _ => none
  | .resynced k answer =>
    match f.stage? k with
    | some (.resyncing _ _) => some (.reread k answer)
    | _ => none
  | .answered k (.ok c) =>
    match f.stage? k with
    | some (.awaiting o _ since) => if f.now ≤ s.deadline since then some (.received k o c) else none
    | _ => none
  | _ => none

/-- The actions of a sequence of events. -/
def trace (s : Setup) : Funder → List Event → List Action
  | _, [] => []
  | f, e :: events => (f.action? s e).toList ++ trace s (f.step s e) events

theorem after_append (s : Setup) (f : Funder) (events events' : List Event) :
    f.after s (events ++ events') = (f.after s events).after s events' :=
  List.foldl_append ..

/-- The last event happens to the funder that the earlier ones left. -/
theorem after_concat (s : Setup) (f : Funder) (events : List Event) (e : Event) :
    f.after s (events ++ [e]) = (f.after s events).step s e :=
  after_append s f events [e]

/-- **What every event of a sequence keeps, the sequence keeps.** -/
theorem after_kept {P : Funder → Prop} {events : List Event}
    (kept : ∀ {f : Funder} {e : Event}, e ∈ events → P f → P (f.step s e)) (holds : P f) : P (f.after s events) := by
  induction events generalizing f with
  | nil => exact holds
  | cons e events ih => exact ih (fun mem => kept (List.mem_cons_of_mem _ mem)) (kept List.mem_cons_self holds)

/-- The later actions are those of the funder that was left. -/
theorem trace_append (s : Setup) (f : Funder) (events events' : List Event) :
    f.trace s (events ++ events') = f.trace s events ++ (f.after s events).trace s events' := by
  induction events generalizing f with
  | nil => rfl
  | cons e events ih =>
    rw [List.cons_append, trace, trace, ih, List.append_assoc]
    rfl

/-- Every action of a trace was done by one of the events, after the actions before it. -/
theorem split_trace {events : List Event} {before later : List Action} {d : Action}
    (h : f.trace s events = before ++ d :: later) :
    ∃ past e future, events = past ++ e :: future ∧ f.trace s past = before ∧
      (f.after s past).action? s e = some d := by
  induction events generalizing f before with
  | nil => exact absurd h (by simp [trace])
  | cons e events ih =>
    rw [trace] at h
    cases action : f.action? s e with
    | none =>
      rw [action, Option.toList_none, List.nil_append] at h
      obtain ⟨past, e', future, rfl, told, done⟩ := ih h
      exact ⟨e :: past, e', future, rfl, by rw [trace, action, told]; rfl, done⟩
    | some x =>
      rw [action, Option.toList_some, List.singleton_append] at h
      cases before with
      | nil =>
        obtain ⟨rfl, -⟩ := List.cons.inj h
        exact ⟨[], e, events, rfl, rfl, action⟩
      | cons y before =>
        obtain ⟨rfl, rest⟩ := List.cons.inj h
        obtain ⟨past, e', future, rfl, told, done⟩ := ih rest
        exact ⟨e :: past, e', future, rfl, by rw [trace, action, told]; rfl, done⟩

/-- A nonce that is lost tells of no event. -/
theorem cause?_of_unsigned? {f' : Funder} {k : Nat} {d : Action} (h : f.unsigned? f' k = some d) : d.cause? = none := by
  unfold unsigned? at h
  split at h
  · split at h
    · cases h
      rfl
    · cases h
  · cases h

/-- An action is done by the event that it tells of. -/
theorem eq_of_cause? {e cause : Event} {d : Action} (h : f.action? s e = some d) (told : d.cause? = some cause) :
    e = cause := by
  unfold action? at h
  split at h
  · exact absurd ((cause?_of_unsigned? h).symm.trans told) nofun
  · exact absurd ((cause?_of_unsigned? h).symm.trans told) nofun
  · exact absurd ((cause?_of_unsigned? h).symm.trans told) nofun
  · split at h <;> cases h
    exact Option.some.inj told
  · split at h <;> cases h
    exact Option.some.inj told
  · split at h
    · split at h <;> cases h
      exact Option.some.inj told
    · cases h
  · cases h

theorem mem_of_cause? {events : List Event} {cause : Event} {d : Action} (mem : d ∈ f.trace s events)
    (told : d.cause? = some cause) : cause ∈ events := by
  obtain ⟨before, later, split⟩ := List.append_of_mem mem
  obtain ⟨past, e, future, rfl, -, done⟩ := split_trace split
  rw [← eq_of_cause? done told]
  simp

end Funder

end TxLoad.Funding
