import TxLoad.Proofs.Funding.Endings
import TxLoad.Proofs.Funding.Solvency
import Mathlib.Logic.Function.Iterate

/-!
# Where the value of transfers goes

- A worker is paid once for each of its transfers that ends well, and nothing else happens to it (`worker_after`);
- `Funder.wealth` is what all accounts have together, `feesOf` what receipts cost: **what the accounts lose is what the
  receipts cost** (`wealth_after`), as long as no receipt is dearer than its quote and all amounts fit their words.
-/

namespace TxLoad.Funding

/-! ## What workers are paid -/

/-- The transfer ended well. -/
def Stage.isPaid : Stage → Bool
  | done r => r.isOk
  | _ => false

theorem Stage.isPaid_verdict (t : SignedTransaction) (c : Confirmation) :
    (done (Funder.verdict t c)).isPaid = c.success := by
  unfold Funder.verdict
  cases c.success <;> rfl

/-- Only a transfer that ends well pays its worker. -/
theorem Transition.workers {s : Setup} {f f' : Funder} {k : Nat} {a b : Stage} (p : Transition s f k a b f') :
    f'.registry.workers =
      if b.isPaid then f.registry.workers.modify (f.payee k) (·.credit s.plan.prefund) else f.registry.workers := by
  cases p with
  | @receive _ t _ c _ comes lock =>
    rw [comes.workers, Stage.isPaid_verdict]
    rfl
  | ask comes | drop comes | line comes | sign comes | refuse comes | accept comes | reject comes | reread comes
  | lapse comes => exact comes.workers

namespace Funder

variable {s : Setup} {f : Funder} {k : Nat} {e : Event}

/-- An event ends the transfer that it carries on to its end. -/
theorem ended?_of_transition {a b : Stage} (about : e.transfer? = some k) (here : f.stage? k = some a)
    (p : Transition s f k a b (f.step s e)) : f.ended? s e = ((f.step s e).result? k).map (k, ·) := by
  have before : f.result? k = none := result?_eq_none here p.onward
  cases finished : (f.step s e).result? k with
  | some r => exact ended?_eq_some.2 ⟨about, before, finished⟩
  | none =>
    rw [Option.map_none, Option.eq_none_iff_forall_ne_some]
    rintro ⟨j, r⟩ ended
    obtain ⟨same, -, finished'⟩ := ended?_eq_some.1 ended
    cases about.symm.trans same
    cases finished.symm.trans finished'

/-- How often worker `w` is paid for transfers that end in the given ways. -/
def paidTo (f : Funder) (w : Nat) (endings : List (Nat × Except Failure Confirmation)) : Nat :=
  endings.countP fun p => p.2.isOk && f.payee p.1 = w

theorem worker_of_unended (none : f.ended? s e = none) (w : Nat) :
    f.registry.workers[w]? =
      f.registry.workers[w]?.map (·.credit s.plan.prefund)^[f.paidTo w (f.ended? s e).toList] := by
  rw [none]
  exact Option.map_id'.symm

/-- An event that ends a transfer well pays its worker, and no event does anything else to a worker. -/
theorem worker_step (s : Setup) (f : Funder) (e : Event) (w : Nat) :
    (f.step s e).registry.workers[w]? =
      f.registry.workers[w]?.map (·.credit s.plan.prefund)^[f.paidTo w (f.ended? s e).toList] := by
  cases about : e.transfer? with
  | none =>
    have none : f.ended? s e = none := by
      unfold ended?
      rw [about]
      rfl
    cases e with
    | request worker | pass time => exact worker_of_unended none w
    | _ => cases about
  | some k =>
    rcases transition_step s f about with same | ⟨a, b, here, p⟩
    · have none : f.ended? s e = none := by
        rw [Option.eq_none_iff_forall_ne_some]
        rintro ⟨j, r⟩ ended
        obtain ⟨-, before, finished⟩ := ended?_eq_some.1 ended
        rw [same, before] at finished
        cases finished
      rw [same]
      exact worker_of_unended none w
    · have there : (f.step s e).stage? k = some b := by rw [p.stage? here, if_pos rfl]
      have ended := ended?_of_transition about here p
      rw [p.workers]
      by_cases paid : b.isPaid
      · obtain ⟨c, rfl⟩ : ∃ c, b = .done (.ok c) := by
          cases b with
          | done r =>
            cases r with
            | ok c => exact ⟨c, rfl⟩
            | error e => cases paid
          | _ => cases paid
        rw [result?_eq_some.2 there] at ended
        have count : f.paidTo w (f.ended? s e).toList = if f.payee k = w then 1 else 0 := by
          rw [ended]
          exact (List.countP_singleton ..).trans (by simp [Except.isOk, Except.toBool])
        rw [if_pos paid, Array.getElem?_modify, count]
        split
        · rfl
        · exact Option.map_id'.symm
      · rw [if_neg paid]
        have none : f.paidTo w (f.ended? s e).toList = 0 := by
          rw [ended]
          cases b with
          | done r =>
            rw [result?_eq_some.2 there]
            cases r with
            | ok c => exact absurd rfl paid
            | error e => rfl
          | _ =>
            rw [result?_eq_none there rfl]
            rfl
        rw [none]
        exact Option.map_id'.symm

/-- **A worker is paid once for each of its transfers that ends well**, and nothing else happens to it. -/
theorem worker_after {events : List Event} (asks : ∀ worker, .request worker ∉ events) (w : Nat) :
    (f.after s events).registry.workers[w]? =
      f.registry.workers[w]?.map (·.credit s.plan.prefund)^[f.paidTo w (f.endings s events)] := by
  induction events generalizing f with
  | nil => exact Option.map_id'.symm
  | cons e events ih =>
    have same : (f.step s e).payee = f.payee := by
      refine payee_step ?_
      rintro worker rfl
      exact asks worker List.mem_cons_self
    have rest := ih (f := f.step s e) fun worker mem => asks worker (List.mem_cons_of_mem _ mem)
    have later : (f.step s e).paidTo w = f.paidTo w := by
      unfold paidTo
      rw [same]
    have together : f.paidTo w (f.endings s (e :: events)) =
        f.paidTo w ((f.step s e).endings s events) + f.paidTo w (f.ended? s e).toList := by
      rw [Nat.add_comm]
      exact List.countP_append
    rw [together, Function.iterate_add, ← Option.map_map, ← worker_step, ← later]
    exact rest

end Funder

/-! ## What all accounts have together -/

/-- What all accounts have together. -/
def Funder.wealth (f : Funder) : Nat := f.registry.funding.balance + (f.registry.workers.toList.map (·.balance)).sum

/-- What the receipt of an action costs. -/
def Action.fee : Action → Nat
  | received _ _ c => c.totalFee
  | _ => 0

/-- What receipts cost together. -/
def feesOf (ds : List Action) : Nat := (ds.map Action.fee).sum

/-- What the receipt of a transfer that succeeded takes from the funding account fits a word. -/
def Action.Fits (s : Setup) : Action → Prop
  | received _ _ c => c.success → s.plan.prefund + c.totalFee ≤ word256Max
  | _ => True

/-- Every transfer that is not over is for a worker that there is. -/
def Funder.Payable (f : Funder) : Prop :=
  ∀ k st, f.stage? k = some st → st.isDone = false → f.payee k < f.registry.workers.size

theorem Move.workers {s : Setup} {f f' : Funder} {d : Option Action} (m : Move s f d f')
    (quiet : ∀ k o c, d ≠ some (.received k o c)) : f'.registry.workers = f.registry.workers := by
  cases m with
  | receive => exact absurd rfl (quiet _ _ _)
  | _ => rfl

namespace Funder

variable {s : Setup} {f : Funder} {k : Nat} {e : Event}

/-- A receipt pays its worker. -/
theorem workers_of_received {o : Offer} {c : Confirmation} (told : f.action? s e = some (.received k o c)) :
    (f.step s e).registry.workers = f.paid s k c ∧ ∃ st, f.stage? k = some st ∧ st.isDone = false := by
  obtain rfl : e = .answered k (.ok c) := eq_of_cause? told rfl
  unfold action? at told
  dsimp only at told
  split at told
  · next o' t since here =>
    split at told
    · next timely =>
      refine ⟨?_, _, here, rfl⟩
      show (f.answered s k (.ok c)).registry.workers = f.paid s k c
      unfold answered
      rw [here]
      dsimp only
      rw [if_pos timely]
      rw [(transition_settle o' t since c).workers, Stage.isPaid_verdict]
      rfl
    · cases told
  · cases told

/-- Value that is paid to a worker is added to what the workers have, if it fits. -/
theorem sum_modify_credit {workers : Array Account} {w : Nat} (inside : w < workers.size) {amount : Nat}
    (fits : (workers.toList.map (·.balance)).sum + amount ≤ word256Max) :
    ((workers.modify w (·.credit amount)).toList.map (·.balance)).sum =
      (workers.toList.map (·.balance)).sum + amount := by
  have listed : workers.toList[w]? = some workers[w] := by simp [inside]
  have sum := sum_map_modify (·.balance) (·.credit amount) listed
  have within : workers[w].balance ≤ (workers.toList.map (·.balance)).sum := by
    have emptied := sum_map_modify (·.balance) (fun a : Account => a.debit a.balance) listed
    have nothing : (workers[w].debit workers[w].balance).balance = 0 := Nat.sub_self _
    omega
  have credited : (workers[w].credit amount).balance = workers[w].balance + amount := by
    show min (workers[w].balance + amount) word256Max = workers[w].balance + amount
    omega
  rw [Array.toList_modify]
  omega

/-- **What the accounts lose by an event is what its receipt costs.** -/
theorem wealth_step (solvent : Solvent s f) (fair : ∀ d, f.action? s e = some d → d.IsFair)
    (fits : ∀ d, f.action? s e = some d → d.Fits s) (payable : f.Payable) (word : f.wealth ≤ word256Max) :
    (f.step s e).wealth + ((f.action? s e).map Action.fee).getD 0 = f.wealth := by
  have debit := solvent.balance_move fair (move_step s f e)
  by_cases receipt : ∃ k o c, f.action? s e = some (.received k o c)
  · obtain ⟨k, o, c, told⟩ := receipt
    obtain ⟨workers, st, here, open_⟩ := workers_of_received told
    have inside := payable k st here open_
    have fits := fits _ told
    unfold wealth at word ⊢
    rw [told] at debit ⊢
    rw [workers]
    unfold paid
    change (f.step s e).registry.funding.balance + s.spent c = f.registry.funding.balance at debit
    show _ + c.totalFee = _
    unfold Setup.spent at debit
    split
    · next success =>
      have spent : Wei.plus s.plan.prefund c.totalFee = s.plan.prefund + c.totalFee := Nat.min_eq_left (fits success)
      rw [if_pos success, spent] at debit
      rw [sum_modify_credit inside (by omega)]
      omega
    · next reverted =>
      rw [if_neg reverted] at debit
      omega
  · have quiet : ∀ k o c, f.action? s e ≠ some (.received k o c) := fun k o c told => receipt ⟨k, o, c, told⟩
    have free : (f.action? s e).map s.cost = (f.action? s e).map Action.fee := by
      cases told : f.action? s e with
      | none => rfl
      | some d =>
        cases d with
        | received k o c => exact absurd told (quiet k o c)
        | _ => rfl
    rw [free] at debit
    unfold wealth
    rw [(move_step s f e).workers quiet]
    omega

/-- No event adds or removes workers. -/
theorem size_workers_step (s : Setup) (f : Funder) (e : Event) :
    (f.step s e).registry.workers.size = f.registry.workers.size := by
  cases about : e.transfer? with
  | none =>
    cases e with
    | request worker | pass time => rfl
    | _ => cases about
  | some k =>
    rcases transition_step s f about with same | ⟨a, b, here, p⟩
    · rw [same]
    · rw [p.workers]
      split
      · exact Array.size_modify
      · rfl

/-- Every event but a request keeps transfers payable. -/
theorem Payable.step (payable : f.Payable) (s : Setup) (asks : ∀ worker, e ≠ .request worker) :
    (f.step s e).Payable := by
  intro j st there open_
  rw [payee_step asks, size_workers_step]
  cases about : e.transfer? with
  | none =>
    cases e with
    | request worker => exact absurd rfl (asks worker)
    | pass time => exact payable j st there open_
    | _ => cases about
  | some k =>
    rcases transition_step s f about with same | ⟨a, b, here, p⟩
    · rw [same] at there
      exact payable j st there open_
    · rw [p.stage? here] at there
      split at there
      · next mine =>
        subst mine
        exact payable k a here p.onward
      · exact payable j st there open_

/-- **What the accounts lose is what receipts cost**, whatever happens to the transfers that are under way. -/
theorem wealth_after {events : List Event} (asks : ∀ worker, .request worker ∉ events) (lock : Locked f)
    (solvent : Solvent s f) (fair : ∀ d ∈ f.trace s events, d.IsFair) (fits : ∀ d ∈ f.trace s events, d.Fits s)
    (payable : f.Payable) (word : f.wealth ≤ word256Max) :
    (f.after s events).wealth + feesOf (f.trace s events) = f.wealth := by
  induction events generalizing f with
  | nil => rfl
  | cons e events ih =>
    have first {P : Action → Prop} (all : ∀ d ∈ f.trace s (e :: events), P d) (d : Action)
        (told : f.action? s e = some d) : P d :=
      all d (List.mem_append_left _ (Option.mem_toList.2 told))
    have other : ∀ worker, e ≠ .request worker := by
      rintro worker rfl
      exact asks worker List.mem_cons_self
    have step := wealth_step solvent (first fair) (first fits) payable word
    have rest := ih (f := f.step s e) (fun worker mem => asks worker (List.mem_cons_of_mem _ mem))
      (lock.move (move_step s f e)) (solvent.move lock (first fair) (move_step s f e))
      (fun d mem => fair d (List.mem_append_right _ mem)) (fun d mem => fits d (List.mem_append_right _ mem))
      (payable.step s other) (by omega)
    have fees : feesOf (f.trace s (e :: events)) =
        ((f.action? s e).map Action.fee).getD 0 + feesOf ((f.step s e).trace s events) := by
      unfold feesOf
      rw [trace, List.map_append, List.sum_append]
      cases f.action? s e <;> rfl
    rw [fees]
    show ((f.step s e).after s events).wealth + _ = _
    omega

end Funder

end TxLoad.Funding
