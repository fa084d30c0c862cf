import TxLoad.Proofs.Funding.Move

/-!
# How a transfer goes on

A move says what an event does to the funding account; a transition says what it does to one transfer, to the lock and to
the workers. From each stage there are few ways on.

- `Transition s f k a b f'`: transfer `k` goes from stage `a` to stage `b`; **every event of a transfer is a transition, or
  changes nothing** (`transition_step`);
- `Placed`: transfers go to good endpoints; every event keeps that (`Placed.step`);
- `Orderly`: the lock is free only while nobody waits for it, who waits for it stands in the queue once, and who has it
  is waiting for its turn or sending; every event keeps that (`Orderly.step`).
-/

namespace TxLoad.Funding

namespace Stage

/-- The transfer has not come to the check of the balance, and does not wait for it. -/
def isEarly : Stage → Bool
  | requested | quoting _ => true
  | _ => false

/-- The transfer waits for the lock, or was handed it. -/
def isQueued : Stage → Bool
  | queued _ => true
  | _ => false

/-- The endpoint of a transfer that has picked one. -/
def endpoint? : Stage → Option Nat
  | quoting i => some i
  | queued o | sending o _ | resyncing o _ | awaiting o _ _ => some o.endpoint
  | _ => none

end Stage

/-- The transfer that an event is about. -/
def Event.transfer? : Event → Option Nat
  | begin k | quoted k _ | granted k | sent k _ | resynced k _ | answered k _ | expired k => some k
  | request _ | pass _ => none

/-- How a transfer ends whose receipt came in. -/
def Funder.verdict (t : SignedTransaction) (c : Confirmation) : Except Failure Confirmation :=
  if c.success then .ok c else .error (revertedFailure t)

/-- The position of the worker that a transfer is for. -/
def Funder.payee (f : Funder) (k : Nat) : Nat := (f.transfers[k]?.map (·.worker)).getD 0

/-- The workers after the receipt of a transfer. -/
def Funder.paid (s : Setup) (f : Funder) (k : Nat) (c : Confirmation) : Array Account :=
  if c.success then f.registry.workers.modify (f.payee k) (·.credit s.plan.prefund) else f.registry.workers

/-! ## Transitions -/

/-- A transfer comes to a stage, and the workers become `workers`. Pool and clock stay. -/
structure Comes (f : Funder) (k : Nat) (b : Stage) (workers : Array Account) (f' : Funder) : Prop where
  transfers : f'.transfers = (f.reach k b).transfers
  workers : f'.registry.workers = workers
  pool : f'.pool = f.pool
  now : f'.now = f.now

/-- The lock stays where it is. -/
structure KeepsLock (f f' : Funder) : Prop where
  holder : f'.holder = f.holder
  queue : f'.queue = f.queue

/-- The lock goes to the one who has waited the longest. -/
structure HandsOn (f f' : Funder) : Prop where
  holder : f'.holder = f.queue.head?
  queue : f'.queue = f.queue.tail

/-- A transfer may check the balance: it finds the lock free, or it was handed the lock. -/
def MayCheck (f : Funder) (k : Nat) (a : Stage) : Prop :=
  a.isEarly ∧ f.holder = none ∨ a.isQueued ∧ f.holder = some k

/-- The endpoint of an offer is the one that the transfer had, or it is good. -/
def Places (f : Funder) (a : Stage) (o : Offer) : Prop := a.endpoint? = some o.endpoint ∨ o.endpoint ∈ f.pool.good

/-- **The ways on from a stage.** -/
inductive Transition (s : Setup) (f : Funder) (k : Nat) : Stage → Stage → Funder → Prop
  | ask {i : Nat} {f' : Funder} (comes : Comes f k (.quoting i) f.registry.workers f') (lock : KeepsLock f f')
      (good : i ∈ f.pool.good) : Transition s f k .requested (.quoting i) f'
  | drop {a : Stage} {e : Failure} {f' : Funder} (comes : Comes f k (.done (.error e)) f.registry.workers f')
      (lock : KeepsLock f f') (early : a.isEarly) : Transition s f k a (.done (.error e)) f'
  | line {a : Stage} {o : Offer} {f' : Funder} (comes : Comes f k (.queued o) f.registry.workers f')
      (early : a.isEarly) (taken : f.holder ≠ none) (holder : f'.holder = f.holder)
      (queue : f'.queue = f.queue ++ [k]) (place : Places f a o) : Transition s f k a (.queued o) f'
  | sign {a : Stage} {o : Offer} {t : SignedTransaction} {f' : Funder}
      (comes : Comes f k (.sending o t) f.registry.workers f') (may : MayCheck f k a) (holder : f'.holder = some k)
      (queue : f'.queue = f.queue) (place : Places f a o) : Transition s f k a (.sending o t) f'
  | refuse {a : Stage} {e : Failure} {f' : Funder} (comes : Comes f k (.done (.error e)) f.registry.workers f')
      (may : MayCheck f k a) (lock : HandsOn f f') : Transition s f k a (.done (.error e)) f'
  | accept {o : Offer} {t : SignedTransaction} {f' : Funder}
      (comes : Comes f k (.awaiting o t f.now) f.registry.workers f') (lock : HandsOn f f') :
      Transition s f k (.sending o t) (.awaiting o t f.now) f'
  | reject {o : Offer} {t : SignedTransaction} {e : Failure} {f' : Funder}
      (comes : Comes f k (.resyncing o e) f.registry.workers f') (lock : KeepsLock f f') :
      Transition s f k (.sending o t) (.resyncing o e) f'
  | reread {o : Offer} {e : Failure} {f' : Funder} (comes : Comes f k (.done (.error e)) f.registry.workers f')
      (lock : HandsOn f f') : Transition s f k (.resyncing o e) (.done (.error e)) f'
  | receive {o : Offer} {t : SignedTransaction} {since : Nat} {c : Confirmation} {f' : Funder}
      (comes : Comes f k (.done (Funder.verdict t c)) (f.paid s k c) f') (lock : KeepsLock f f') :
      Transition s f k (.awaiting o t since) (.done (Funder.verdict t c)) f'
  | lapse {o : Offer} {t : SignedTransaction} {since : Nat} {e : Failure} {f' : Funder}
      (comes : Comes f k (.done (.error e)) f.registry.workers f') (lock : KeepsLock f f') :
      Transition s f k (.awaiting o t since) (.done (.error e)) f'

namespace Transition

variable {s : Setup} {f f' : Funder} {k : Nat} {a b : Stage}

theorem comes (p : Transition s f k a b f') : ∃ workers, Comes f k b workers f' := by
  cases p <;> exact ⟨_, by assumption⟩

theorem stage? (p : Transition s f k a b f') (here : f.stage? k = some a) (j : Nat) :
    f'.stage? j = if k = j then some b else f.stage? j := by
  obtain ⟨workers, comes⟩ := p.comes
  exact Funder.stage?_reach here comes.transfers j

/-- A transfer that is over does not go on. -/
theorem onward (p : Transition s f k a b f') : a.isDone = false := by
  have of_early (early : a.isEarly) : a.isDone = false := by
    cases a <;> first | rfl | cases early
  have of_may (may : MayCheck f k a) : a.isDone = false := by
    rcases may with ⟨early, -⟩ | ⟨queued, -⟩
    · exact of_early early
    · cases a <;> first | rfl | cases queued
  cases p with
  | drop comes lock early | line comes early => exact of_early early
  | sign comes may | refuse comes may => exact of_may may
  | _ => rfl

theorem pool (p : Transition s f k a b f') : f'.pool = f.pool := by
  obtain ⟨workers, comes⟩ := p.comes
  exact comes.pool

theorem now (p : Transition s f k a b f') : f'.now = f.now := by
  obtain ⟨workers, comes⟩ := p.comes
  exact comes.now

end Transition

namespace Funder

variable {s : Setup} {f : Funder} {k : Nat} {a : Stage}

/-! ## Every event is a transition -/

/-- After the check of the balance a transfer is sending, or over. -/
theorem transition_check {o : Offer} (may : MayCheck f k a) (place : Places f a o)
    (log : Array Log.Entry) {f₁ : Funder} (locked : f₁ = { f.reach k (.queued o) with holder := some k, log := log }) :
    ∃ b, Transition s f k a b (f₁.checkFunds s k o) ∧ (b.isDone ∨ ∃ t, b = .sending o t) := by
  have comes (g : Account → Account) (b : Stage) {f' : Funder}
      (moved : f'.transfers = (f₁.reach k b).transfers ∧ f'.registry = f₁.registry.modifyFunding g ∧
        f'.pool = f₁.pool ∧ f'.now = f₁.now) : Comes f k b f.registry.workers f' := by
    obtain ⟨transfers, registry, pool, now⟩ := moved
    subst locked
    refine ⟨?_, ?_, pool, now⟩
    · rw [transfers, ← reach_reach f k (.queued o) b]
      rfl
    · rw [registry]
      rfl
  have handsOn (g : Account → Account) (e : Failure) :
      HandsOn f ({ f₁ with registry := f₁.registry.modifyFunding g }.giveUp k e) := by
    subst locked
    exact ⟨rfl, rfl⟩
  rcases Nat.lt_or_ge f₁.available o.required with poor | covered
  · rw [checkFunds_of_poor poor]
    exact ⟨_, .refuse (comes id _ ⟨rfl, rfl, rfl, rfl⟩) may (handsOn id _), .inl rfl⟩
  · have made := assemble_payload s f₁ k f₁.registry.funding o.quote
    cases signed : (f₁.registry.funding.draft (f₁.payload s k) o.quote).sign f₁.registry.funding.key
        f₁.registry.funding.address with
    | error e =>
      rw [signed] at made
      rw [checkFunds_of_unsigned covered made]
      exact ⟨_, .refuse (comes _ _ ⟨rfl, rfl, rfl, rfl⟩) may (handsOn _ _), .inl rfl⟩
    | ok t =>
      rw [signed] at made
      rw [checkFunds_of_signed covered made]
      refine ⟨_, .sign (comes _ _ ⟨rfl, rfl, rfl, rfl⟩) may ?_ ?_ place, .inr ⟨t, rfl⟩⟩
      · subst locked
        rfl
      · subst locked
        rfl

/-- A transfer with known fees is sending, in the queue, or over. -/
theorem transition_enter (early : a.isEarly) {endpoint : Nat}
    (place : a.endpoint? = some endpoint ∨ endpoint ∈ f.pool.good) (quote : Fee.Quote) :
    ∃ b, Transition s f k a b (f.enter s k endpoint quote) ∧ (b.isDone ∨ b.isQueued ∨ ∃ o t, b = .sending o t) := by
  unfold enter
  dsimp only
  split
  · next free =>
    let o : Offer := ⟨endpoint, quote.clamped, (f.payload s k).maxCost quote.clamped.feeCap⟩
    have may : MayCheck f k a := .inl ⟨early, free⟩
    let log := (f.sayAll (quote.clamped.warnings (s.endpointName endpoint))).log
    obtain ⟨b, p, ended | ⟨t, sending⟩⟩ := transition_check (s := s) (o := o) may place log rfl
    · exact ⟨b, p, .inl ended⟩
    · exact ⟨b, p, .inr (.inr ⟨_, t, sending⟩)⟩
  · next taken =>
    refine ⟨_, .line ⟨rfl, rfl, rfl, rfl⟩ early ?_ rfl rfl place, .inr (.inl rfl)⟩
    exact fun free => absurd (taken.symm.trans free) nofun

/-- The first event of a transfer carries it on. -/
theorem transition_begin (here : f.stage? k = some .requested) :
    ∃ b, Transition s f k .requested b (f.step s (.begin k)) ∧
      (b.isDone ∨ b.isQueued ∨ (∃ i, b = .quoting i) ∨ ∃ o t, b = .sending o t) := by
  show ∃ b, Transition s f k .requested b (f.begin s k) ∧ _
  unfold begin
  rw [here]
  dsimp only
  split
  · exact ⟨_, .drop ⟨rfl, rfl, rfl, rfl⟩ ⟨rfl, rfl⟩ rfl, .inl rfl⟩
  · next endpoint _ picked =>
    have good : endpoint ∈ f.pool.good := by
      unfold Pool.select at picked
      dsimp only at picked
      split at picked
      · next there =>
        cases picked
        exact List.mem_of_getElem? there
      · cases picked
    split
    · obtain ⟨b, p, ended | queued | sending⟩ := transition_enter (s := s) (a := .requested) rfl (.inr good) _
      · exact ⟨b, p, .inl ended⟩
      · exact ⟨b, p, .inr (.inl queued)⟩
      · exact ⟨b, p, .inr (.inr (.inr sending))⟩
    · exact ⟨_, .ask ⟨rfl, rfl, rfl, rfl⟩ ⟨rfl, rfl⟩ good, .inr (.inr (.inl ⟨_, rfl⟩))⟩

/-- An answer about fees carries a transfer on. -/
theorem transition_quoted {i : Nat} (here : f.stage? k = some (.quoting i)) (answer : Except Failure (Nat × Nat)) :
    ∃ b, Transition s f k (.quoting i) b (f.step s (.quoted k answer)) ∧
      (b.isDone ∨ b.isQueued ∨ ∃ o t, b = .sending o t) := by
  show ∃ b, Transition s f k (.quoting i) b (f.quoted s k answer) ∧ _
  unfold quoted
  rw [here]
  cases answer with
  | error e => exact ⟨_, .drop ⟨rfl, rfl, rfl, rfl⟩ ⟨rfl, rfl⟩ rfl, .inl rfl⟩
  | ok fees => exact transition_enter rfl (.inl rfl) _

/-- A transfer that was handed the lock goes on. -/
theorem transition_granted {o : Offer} (here : f.stage? k = some (.queued o)) (mine : f.holder = some k) :
    ∃ b, Transition s f k (.queued o) b (f.step s (.granted k)) ∧ (b.isDone ∨ ∃ t, b = .sending o t) := by
  show ∃ b, Transition s f k (.queued o) b (f.granted s k) ∧ _
  unfold granted
  rw [here]
  dsimp only
  rw [if_pos mine]
  refine transition_check (.inr ⟨rfl, mine⟩) (.inl rfl) f.log ?_
  rw [reach_self here, ← mine]

/-- An answer to a submission carries a transfer on. -/
theorem transition_sent {o : Offer} {t : SignedTransaction} (here : f.stage? k = some (.sending o t))
    (answer : Except Failure Unit) :
    ∃ b, Transition s f k (.sending o t) b (f.step s (.sent k answer)) ∧
      (b = .awaiting o t f.now ∨ ∃ e, b = .resyncing o e) := by
  show ∃ b, Transition s f k (.sending o t) b (f.sent k answer) ∧ _
  unfold sent
  rw [here]
  cases answer with
  | ok => exact ⟨_, .accept ⟨rfl, rfl, rfl, rfl⟩ ⟨rfl, rfl⟩, .inl rfl⟩
  | error e => exact ⟨_, .reject ⟨rfl, rfl, rfl, rfl⟩ ⟨rfl, rfl⟩, .inr ⟨e, rfl⟩⟩

/-- A transfer whose nonce was read again is over. -/
theorem transition_resynced {o : Offer} {e : Failure} (here : f.stage? k = some (.resyncing o e))
    (answer : Except Failure Nat) :
    Transition s f k (.resyncing o e) (.done (.error e)) (f.step s (.resynced k answer)) := by
  show Transition s f k (.resyncing o e) (.done (.error e)) (f.resynced k answer)
  unfold resynced
  rw [here]
  cases answer <;> exact .reread ⟨rfl, rfl, rfl, rfl⟩ ⟨rfl, rfl⟩

/-- A receipt ends a transfer, and pays its worker if the transfer succeeded. -/
theorem transition_settle (o : Offer) (t : SignedTransaction) (since : Nat) (c : Confirmation) :
    Transition s f k (.awaiting o t since) (.done (verdict t c)) ((f.release o).settle s k t c) := by
  refine .receive ⟨?transfers, ?workers, ?pool, ?now⟩ ⟨?holder, ?queue⟩
  all_goals
    unfold settle
    dsimp only
  case transfers =>
    unfold verdict
    cases c.success <;> rfl
  case workers =>
    unfold paid
    cases c.success <;> rfl
  all_goals cases c.success <;> rfl

theorem transition_lapse (o : Offer) (t : SignedTransaction) (since : Nat) (e : Failure) :
    Transition s f k (.awaiting o t since) (.done (.error e)) ((f.release o).reach k (.done (.error e))) :=
  .lapse ⟨rfl, rfl, rfl, rfl⟩ ⟨rfl, rfl⟩

/-- An answer to the wait for a receipt that comes in time ends a transfer. -/
theorem transition_answered {o : Offer} {t : SignedTransaction} {since : Nat}
    (here : f.stage? k = some (.awaiting o t since)) (timely : f.now ≤ s.deadline since)
    (answer : Except Failure Confirmation) :
    ∃ result, Transition s f k (.awaiting o t since) (.done result) (f.step s (.answered k answer)) := by
  show ∃ result, Transition s f k (.awaiting o t since) (.done result) (f.answered s k answer)
  unfold answered
  rw [here]
  dsimp only
  rw [if_pos timely]
  cases answer with
  | ok c => exact ⟨_, transition_settle o t since c⟩
  | error e => exact ⟨_, transition_lapse o t since e⟩

/-- After an answer that comes in time no transfer is waited for. -/
theorem not_awaiting_of_answered (timely : ∀ since, f.now ≤ s.deadline since) (answer : Except Failure Confirmation)
    (o : Offer) (t : SignedTransaction) (since : Nat) :
    (f.step s (.answered k answer)).stage? k ≠ some (.awaiting o t since) := by
  intro awaiting
  by_cases out : ∃ o t since, f.stage? k = some (.awaiting o t since)
  · obtain ⟨o', t', since', here⟩ := out
    obtain ⟨result, p⟩ := transition_answered here (timely since') answer
    rw [p.stage? here, if_pos rfl] at awaiting
    cases awaiting
  · change (f.answered s k answer).stage? k = _ at awaiting
    unfold answered at awaiting
    split at awaiting
    · next o' t' since' here => exact out ⟨o', t', since', here⟩
    · exact out ⟨o, t, since, awaiting⟩

/-- The deadline of a transfer ends it. -/
theorem transition_expired {o : Offer} {t : SignedTransaction} {since : Nat}
    (here : f.stage? k = some (.awaiting o t since)) (due : s.deadline since ≤ f.now) :
    Transition s f k (.awaiting o t since) (.done (.error (unconfirmed s t))) (f.step s (.expired k)) := by
  show Transition s f k (.awaiting o t since) (.done (.error (unconfirmed s t))) (f.expired s k)
  unfold expired
  rw [here]
  dsimp only
  rw [if_pos due]
  exact transition_lapse o t since _

/-! ## Every event of a transfer -/

/-- **Every event of a transfer carries it on, or changes nothing.** -/
theorem transition_step (s : Setup) (f : Funder) {e : Event} {k : Nat} (about : e.transfer? = some k) :
    f.step s e = f ∨ ∃ a b, f.stage? k = some a ∧ Transition s f k a b (f.step s e) := by
  cases e with
  | request worker | pass time => cases about
  | begin k =>
    cases about
    by_cases here : f.stage? k = some .requested
    · obtain ⟨b, p, -⟩ := transition_begin (s := s) here
      exact .inr ⟨_, b, here, p⟩
    · refine .inl ?_
      show f.begin s k = f
      unfold begin
      split
      · next requested => exact absurd requested here
      · rfl
  | quoted k answer =>
    cases about
    by_cases here : ∃ i, f.stage? k = some (.quoting i)
    · obtain ⟨i, here⟩ := here
      obtain ⟨b, p, -⟩ := transition_quoted (s := s) here answer
      exact .inr ⟨_, b, here, p⟩
    · refine .inl ?_
      show f.quoted s k answer = f
      unfold quoted
      split
      · next i quoting => exact absurd ⟨i, quoting⟩ here
      · rfl
  | granted k =>
    cases about
    by_cases here : ∃ o, f.stage? k = some (.queued o) ∧ f.holder = some k
    · obtain ⟨o, here, mine⟩ := here
      obtain ⟨b, p, -⟩ := transition_granted (s := s) here mine
      exact .inr ⟨_, b, here, p⟩
    · refine .inl ?_
      show f.granted s k = f
      unfold granted
      split
      · next o queued => exact if_neg fun mine => here ⟨o, queued, mine⟩
      · rfl
  | sent k answer =>
    cases about
    by_cases here : ∃ o t, f.stage? k = some (.sending o t)
    · obtain ⟨o, t, here⟩ := here
      obtain ⟨b, p, -⟩ := transition_sent (s := s) here answer
      exact .inr ⟨_, b, here, p⟩
    · refine .inl ?_
      show f.sent k answer = f
      unfold sent
      split
      · next o t sending => exact absurd ⟨o, t, sending⟩ here
      · rfl
  | resynced k answer =>
    cases about
    by_cases here : ∃ o e, f.stage? k = some (.resyncing o e)
    · obtain ⟨o, e, here⟩ := here
      exact .inr ⟨_, _, here, transition_resynced here answer⟩
    · refine .inl ?_
      show f.resynced k answer = f
      unfold resynced
      split
      · next o e resyncing => exact absurd ⟨o, e, resyncing⟩ here
      · rfl
  | answered k answer =>
    cases about
    by_cases here : ∃ o t since, f.stage? k = some (.awaiting o t since) ∧ f.now ≤ s.deadline since
    · obtain ⟨o, t, since, here, timely⟩ := here
      obtain ⟨result, p⟩ := transition_answered here timely answer
      exact .inr ⟨_, _, here, p⟩
    · refine .inl ?_
      show f.answered s k answer = f
      unfold answered
      split
      · next o t since awaiting => exact if_neg fun timely => here ⟨o, t, since, awaiting, timely⟩
      · rfl
  | expired k =>
    cases about
    by_cases here : ∃ o t since, f.stage? k = some (.awaiting o t since) ∧ s.deadline since ≤ f.now
    · obtain ⟨o, t, since, here, due⟩ := here
      exact .inr ⟨_, _, here, transition_expired here due⟩
    · refine .inl ?_
      show f.expired s k = f
      unfold expired
      split
      · next o t since awaiting => exact if_neg fun due => here ⟨o, t, since, awaiting, due⟩
      · rfl

/-- Only the passing of time moves the clock. -/
theorem now_step {e : Event} (still : ∀ time, e ≠ .pass time) : (f.step s e).now = f.now := by
  cases about : e.transfer? with
  | none =>
    cases e with
    | request worker => rfl
    | pass time => exact absurd rfl (still time)
    | _ => cases about
  | some k =>
    rcases transition_step s f about with same | ⟨a, b, -, p⟩
    · rw [same]
    · exact p.now

theorem now_after {events : List Event} (still : ∀ time, .pass time ∉ events) : (f.after s events).now = f.now := by
  refine after_kept (P := fun g => g.now = f.now) (fun mem same => (now_step ?_).trans same) rfl
  rintro time rfl
  exact still time mem

/-- No event changes the pool. -/
theorem pool_step (e : Event) : (f.step s e).pool = f.pool := by
  cases about : e.transfer? with
  | none =>
    cases e with
    | request worker | pass time => rfl
    | _ => cases about
  | some k =>
    rcases transition_step s f about with same | ⟨a, b, -, p⟩
    · rw [same]
    · exact p.pool

/-- The workers that the transfers are for, in the order of the transfers. -/
def payees (f : Funder) : Array Nat := f.transfers.map (·.worker)

/-- No event but a new request changes whom transfers are for. -/
theorem payees_step {e : Event} (asks : ∀ worker, e ≠ .request worker) : (f.step s e).payees = f.payees := by
  cases about : e.transfer? with
  | none =>
    cases e with
    | request worker => exact absurd rfl (asks worker)
    | pass time => rfl
    | _ => cases about
  | some k =>
    rcases transition_step s f about with same | ⟨a, b, -, p⟩
    · rw [same]
    · obtain ⟨workers, comes⟩ := p.comes
      unfold payees
      rw [comes.transfers]
      apply Array.ext_getElem?
      intro j
      rw [Array.getElem?_map, Array.getElem?_map, reach, Array.getElem?_modify]
      split
      · cases f.transfers[j]? <;> rfl
      · rfl

theorem payee_eq (f : Funder) (k : Nat) : f.payee k = f.payees[k]?.getD 0 := by
  unfold payee payees
  rw [Array.getElem?_map]

theorem payee_step {e : Event} (asks : ∀ worker, e ≠ .request worker) : (f.step s e).payee = f.payee := by
  funext j
  rw [payee_eq, payee_eq, payees_step asks]

theorem payees_after {events : List Event} (asks : ∀ worker, .request worker ∉ events) :
    (f.after s events).payees = f.payees := by
  refine after_kept (P := fun g => g.payees = f.payees) (fun mem same => (payees_step ?_).trans same) rfl
  rintro worker rfl
  exact asks worker mem

/-- While no transfer is requested, none comes to be, and none is forgotten. -/
theorem exists_stage_after {events : List Event} (asks : ∀ worker, .request worker ∉ events) :
    (∃ st, (f.after s events).stage? k = some st) ↔ ∃ st, f.stage? k = some st := by
  have same (g : Funder) : (g.stage? k).isSome = g.payees[k]?.isSome := by
    unfold stage? payees
    rw [Array.getElem?_map, Option.isSome_map, Option.isSome_map]
  rw [← Option.isSome_iff_exists, ← Option.isSome_iff_exists, same, same, payees_after asks]

end Funder

/-! ## Good endpoints -/

/-- Every transfer that has picked an endpoint has picked a good one. -/
def Placed (f : Funder) : Prop := ∀ k st i, f.stage? k = some st → st.endpoint? = some i → i ∈ f.pool.good

namespace Placed

variable {s : Setup} {f f' : Funder} {k : Nat} {a b : Stage}

/-- Every transition keeps the endpoints good. -/
theorem transition (h : Placed f) (here : f.stage? k = some a) (p : Transition s f k a b f') : Placed f' := by
  have mine : ∀ i, b.endpoint? = some i → i ∈ f.pool.good := by
    have old := fun i => h k a i here
    cases p with
    | ask comes lock good =>
      rintro _ ⟨⟩
      exact good
    | line comes early taken holder queue place | sign comes may holder queue place =>
      rintro _ ⟨⟩
      rcases place with same | good
      · exact old _ same
      · exact good
    | accept | reject =>
      rintro _ ⟨⟩
      exact old _ rfl
    | drop | refuse | reread | receive | lapse => exact nofun
  intro j st i there picked
  rw [p.pool]
  rw [p.stage? here] at there
  split at there
  · cases there
    exact mine i picked
  · exact h j st i there picked

/-- **Every event keeps the endpoints good.** -/
theorem step (h : Placed f) (s : Setup) (e : Event) : Placed (f.step s e) := by
  cases about : e.transfer? with
  | none =>
    cases e with
    | pass time => exact h
    | request worker =>
      intro j st i there picked
      rcases @Funder.stage?_request f _ worker rfl j _ there with old | rfl
      · exact h j st i old picked
      · cases picked
    | _ => cases about
  | some k =>
    rcases Funder.transition_step s f about with same | ⟨a, b, here, p⟩
    · rwa [same]
    · exact h.transition here p

end Placed

/-! ## The order of the lock -/

/-- **The lock is kept in order**: it is free only while nobody waits for it, who waits for it stands in the queue once
or was handed it, and who has it was handed it or is sending. -/
structure Orderly (f : Funder) : Prop where
  locked : Locked f
  free : f.holder = none → f.queue = []
  once : f.queue.Nodup
  waits : ∀ k ∈ f.queue, f.holder ≠ some k ∧ ∃ o, f.stage? k = some (.queued o)
  listed : ∀ k o, f.stage? k = some (.queued o) → k ∈ f.queue ∨ f.holder = some k
  holds : ∀ k, f.holder = some k → ∃ st, f.stage? k = some st ∧ (st.isQueued ∨ st.isSending)

namespace Orderly

variable {s : Setup} {f f' : Funder} {k : Nat} {a b : Stage}

/-- Who may check the balance does not stand in the queue. -/
theorem not_mem_queue (h : Orderly f) (mine : f.holder = none ∨ f.holder = some k) : k ∉ f.queue := by
  intro mem
  rcases mine with free | mine
  · rw [h.free free] at mem
    cases mem
  · exact (h.waits k mem).1 mine

/-- Who is not queued does not stand in the queue. -/
theorem ne_of_mem_queue (h : Orderly f) (here : f.stage? k = some a) (other : a.isQueued = false) {j : Nat}
    (mem : j ∈ f.queue) : k ≠ j := by
  rintro rfl
  obtain ⟨-, o, queued⟩ := h.waits k mem
  cases here.symm.trans queued
  cases other

theorem holder_of_may (may : MayCheck f k a) : f.holder = none ∨ f.holder = some k := by
  rcases may with ⟨-, free⟩ | ⟨-, mine⟩
  · exact .inl free
  · exact .inr mine

/-- A transfer that goes on while the lock stays where it is. -/
theorem keep (h : Orderly f) (here : f.stage? k = some a) (reached : f'.transfers = (f.reach k b).transfers)
    (lock : KeepsLock f f') (locked : Locked f') (before : a.isQueued = false) (after : b.isQueued = false)
    (onward : a.isSending → b.isSending) : Orderly f' := by
  refine ⟨locked, ?_, ?_, fun j mem => ?_, fun j o there => ?_, fun j holder => ?_⟩
  · rw [lock.holder, lock.queue]
    exact h.free
  · rw [lock.queue]
    exact h.once
  · rw [lock.queue] at mem
    rw [lock.holder, Funder.stage?_reach here reached, if_neg (h.ne_of_mem_queue here before mem)]
    exact h.waits j mem
  · rw [lock.queue, lock.holder]
    rcases Funder.mine_or_old here reached there with ⟨-, rfl⟩ | ⟨-, old⟩
    · cases after
    · exact h.listed j o old
  · rw [lock.holder] at holder
    obtain ⟨st, there, known⟩ := h.holds j holder
    rw [Funder.stage?_reach here reached]
    split
    · next same =>
      subst same
      cases here.symm.trans there
      refine ⟨b, rfl, .inr (onward ?_)⟩
      rcases known with queued | sending
      · rw [before] at queued
        cases queued
      · exact sending
    · exact ⟨st, there, known⟩

/-- A transfer that goes on without the lock and finds it taken stands in line. -/
theorem line (h : Orderly f) (here : f.stage? k = some a) {o : Offer}
    (reached : f'.transfers = (f.reach k (.queued o)).transfers) (locked : Locked f') (early : a.isEarly)
    (taken : f.holder ≠ none) (holder : f'.holder = f.holder) (queue : f'.queue = f.queue ++ [k]) : Orderly f' := by
  have before : a.isQueued = false ∧ a.isSending = false := by
    cases a <;> first | exact ⟨rfl, rfl⟩ | cases early
  have other : f.holder ≠ some k := by
    intro mine
    obtain ⟨st, there, queued | sending⟩ := h.holds k mine
    · cases here.symm.trans there
      rw [before.1] at queued
      cases queued
    · cases here.symm.trans there
      rw [before.2] at sending
      cases sending
  refine ⟨locked, fun free => ?_, ?_, fun j mem => ?_, fun j o' there => ?_, fun j mine => ?_⟩
  · exact absurd (holder.symm.trans free) taken
  · rw [queue, List.nodup_append]
    refine ⟨h.once, by simp, fun i old j new => ?_⟩
    rw [List.mem_singleton.1 new]
    exact (h.ne_of_mem_queue here before.1 old).symm
  · rw [queue] at mem
    rw [holder, Funder.stage?_reach here reached]
    rcases List.mem_append.1 mem with old | new
    · rw [if_neg (h.ne_of_mem_queue here before.1 old)]
      exact h.waits j old
    · cases List.mem_singleton.1 new
      rw [if_pos rfl]
      exact ⟨other, o, rfl⟩
  · rw [queue, holder]
    rcases Funder.mine_or_old here reached there with ⟨rfl, -⟩ | ⟨-, old⟩
    · exact .inl (List.mem_append_right _ List.mem_cons_self)
    · rcases h.listed j o' old with mem | mine
      · exact .inl (List.mem_append_left _ mem)
      · exact .inr mine
  · rw [holder] at mine
    have apart : k ≠ j := by
      rintro rfl
      exact other mine
    rw [Funder.stage?_reach here reached, if_neg apart]
    exact h.holds j mine

/-- A transfer that is done with the lock hands it on. -/
theorem handOn (h : Orderly f) (here : f.stage? k = some a) (reached : f'.transfers = (f.reach k b).transfers)
    (lock : HandsOn f f') (locked : Locked f') (mine : f.holder = none ∨ f.holder = some k)
    (after : b.isQueued = false) : Orderly f' := by
  have absent : k ∉ f.queue := h.not_mem_queue mine
  have apart {j : Nat} (mem : j ∈ f.queue) : k ≠ j := by
    rintro rfl
    exact absent mem
  refine ⟨locked, fun free => ?_, ?_, fun j mem => ?_, fun j o there => ?_, fun j holder => ?_⟩
  · rw [lock.holder, List.head?_eq_none_iff] at free
    rw [lock.queue, free]
    rfl
  · rw [lock.queue]
    exact h.once.sublist (List.tail_sublist _)
  · rw [lock.queue] at mem
    have inside := List.mem_of_mem_tail mem
    rw [lock.holder, Funder.stage?_reach here reached, if_neg (apart inside)]
    refine ⟨fun first => ?_, (h.waits j inside).2⟩
    have once := h.once
    cases queue : f.queue with
    | nil =>
      rw [queue] at mem
      cases mem
    | cons x rest =>
      rw [queue] at first mem once
      cases first
      exact (List.nodup_cons.1 once).1 mem
  · rw [lock.queue, lock.holder]
    rcases Funder.mine_or_old here reached there with ⟨-, rfl⟩ | ⟨other, old⟩
    · cases after
    · rcases h.listed j o old with mem | holder
      · cases queue : f.queue with
        | nil =>
          rw [queue] at mem
          cases mem
        | cons x rest =>
          rw [queue] at mem
          rcases List.mem_cons.1 mem with rfl | later
          · exact .inr rfl
          · exact .inl later
      · rcases mine with free | mine
        · exact absurd (free.symm.trans holder) nofun
        · exact absurd (Option.some.inj (mine.symm.trans holder)) other
  · rw [lock.holder] at holder
    have mem : j ∈ f.queue := List.mem_of_mem_head? holder
    obtain ⟨-, o, queued⟩ := h.waits j mem
    rw [Funder.stage?_reach here reached, if_neg (apart mem)]
    exact ⟨_, queued, .inl rfl⟩

/-- A transfer that signs its transaction has the lock. -/
theorem sign (h : Orderly f) (here : f.stage? k = some a) {o : Offer} {t : SignedTransaction}
    (reached : f'.transfers = (f.reach k (.sending o t)).transfers) (locked : Locked f')
    (mine : f.holder = none ∨ f.holder = some k) (holder : f'.holder = some k) (queue : f'.queue = f.queue) :
    Orderly f' := by
  have absent : k ∉ f.queue := h.not_mem_queue mine
  have apart {j : Nat} (mem : j ∈ f.queue) : k ≠ j := by
    rintro rfl
    exact absent mem
  refine ⟨locked, fun free => ?_, ?_, fun j mem => ?_, fun j o' there => ?_, fun j held => ?_⟩
  · exact absurd (holder.symm.trans free) nofun
  · rw [queue]
    exact h.once
  · rw [queue] at mem
    rw [holder, Funder.stage?_reach here reached, if_neg (apart mem)]
    exact ⟨fun same => apart mem (Option.some.inj same), (h.waits j mem).2⟩
  · rw [queue]
    rcases Funder.mine_or_old here reached there with ⟨-, new⟩ | ⟨other, old⟩
    · cases new
    · rcases h.listed j o' old with mem | held
      · exact .inl mem
      · rcases mine with free | mine
        · exact absurd (free.symm.trans held) nofun
        · exact absurd (Option.some.inj (mine.symm.trans held)) other
  · cases holder.symm.trans held
    rw [Funder.stage?_reach here reached, if_pos rfl]
    exact ⟨_, rfl, .inr rfl⟩

/-- Every transition keeps the lock in order. -/
theorem transition (h : Orderly f) (here : f.stage? k = some a) (p : Transition s f k a b f') (locked : Locked f') :
    Orderly f' := by
  cases p with
  | ask comes lock => exact h.keep here comes.transfers lock locked rfl rfl nofun
  | drop comes lock early =>
    have before : a.isQueued = false ∧ a.isSending = false := by
      cases a <;> first | exact ⟨rfl, rfl⟩ | cases early
    refine h.keep here comes.transfers lock locked before.1 rfl fun sending => ?_
    rw [before.2] at sending
    cases sending
  | line comes early taken holder queue => exact h.line here comes.transfers locked early taken holder queue
  | sign comes may holder queue => exact h.sign here comes.transfers locked (holder_of_may may) holder queue
  | refuse comes may lock => exact h.handOn here comes.transfers lock locked (holder_of_may may) rfl
  | accept comes lock => exact h.handOn here comes.transfers lock locked (.inr (h.locked k _ here rfl)) rfl
  | reject comes lock => exact h.keep here comes.transfers lock locked rfl rfl fun _ => rfl
  | reread comes lock => exact h.handOn here comes.transfers lock locked (.inr (h.locked k _ here rfl)) rfl
  | receive comes lock => exact h.keep here comes.transfers lock locked rfl rfl nofun
  | lapse comes lock => exact h.keep here comes.transfers lock locked rfl rfl nofun

/-- **Every event keeps the lock in order.** -/
theorem step (h : Orderly f) (s : Setup) (e : Event) : Orderly (f.step s e) := by
  have locked : Locked (f.step s e) := h.locked.move (Funder.move_step s f e)
  cases about : e.transfer? with
  | none =>
    cases e with
    | pass time => exact ⟨locked, h.free, h.once, h.waits, h.listed, h.holds⟩
    | request worker =>
      refine ⟨locked, h.free, h.once, fun j mem => ?_, fun j o there => ?_, fun j holder => ?_⟩
      · obtain ⟨other, o, queued⟩ := h.waits j mem
        exact ⟨other, o, Funder.stage?_request_of_some rfl queued⟩
      · rcases @Funder.stage?_request f _ worker rfl j _ there with old | new
        · exact h.listed j o old
        · cases new
      · obtain ⟨st, there, known⟩ := h.holds j holder
        exact ⟨st, Funder.stage?_request_of_some rfl there, known⟩
    | _ => cases about
  | some k =>
    rcases Funder.transition_step s f about with same | ⟨a, b, here, p⟩
    · rwa [same]
    · exact h.transition here p locked

theorem after (h : Orderly f) (s : Setup) (events : List Event) : Orderly (f.after s events) :=
  Funder.after_kept (fun _ kept => kept.step s _) h

end Orderly

end TxLoad.Funding
