import TxLoad.Proofs.Funding.Commitment
import TxLoad.Proofs.Funding.Progress
import TxLoad.Proofs.Funding.Value

/-!
# A top-up is complete, and loses nothing

A top-up asks for one transfer for every worker below the minimum, sixteen at once, and says how it ended when all of
them are over. Nothing else is under way meanwhile (`Funder.Idle`).

- `ToppedUp` is what a top-up has done, however its calls were answered: who was to be paid, who was, what is said in
  the end, and what became of all the value;
- **every top-up is one, and comes to an end where endpoints answer** (`topUp_complete`). A balance stops at the
  greatest word, so a worker close to it receives less (`topUp_saturates`).
-/

namespace TxLoad.Funding

open Network (Net)

namespace Funder

variable {s : Setup} {f : Funder} {k : Nat}

/-! ## Who is topped up -/

/-- A worker is topped up if its balance is below the minimum. -/
theorem mem_needy (enabled : s.plan.disabled = false) {w : Nat} :
    w ∈ f.needy s ↔ ∃ a, f.registry.workers[w]? = some a ∧ a.balance < s.plan.minimum := by
  unfold needy
  rw [List.mem_filter, List.mem_range]
  constructor
  · rintro ⟨-, low⟩
    split at low
    · next a there =>
      refine ⟨a, there, ?_⟩
      simpa [Plan.needsTopUp, enabled] using low
    · cases low
  · rintro ⟨a, there, low⟩
    rw [there]
    refine ⟨(Array.getElem?_eq_some_iff.1 there).1, ?_⟩
    simpa [Plan.needsTopUp, enabled] using low

theorem needy_nodup (s : Setup) (f : Funder) : (f.needy s).Nodup := List.nodup_range.filter _

/-! ## What is said in the end -/

/-- A top-up succeeds if all its transfers did. -/
theorem topUpResult_eq_ok {results : List (Except Failure Confirmation)} {n : Nat} :
    topUpResult results = .ok n ↔ (∀ r ∈ results, r.isOk) ∧ n = results.length := by
  unfold topUpResult
  constructor
  · intro ok
    split at ok
    · cases ok
    · next none =>
      cases ok
      refine ⟨fun r mem => ?_, rfl⟩
      have := List.findSome?_eq_none_iff.1 none r mem
      cases r with
      | ok c => rfl
      | error e => cases this
  · rintro ⟨all, rfl⟩
    split
    · next e found =>
      obtain ⟨r, mem, failed⟩ := List.exists_of_findSome?_eq_some found
      have ok := all r mem
      cases r with
      | ok c => cases failed
      | error e => cases ok
    · rfl

/-- A top-up fails with the first failure of its transfers. -/
theorem topUpResult_of_first {before later : List (Except Failure Confirmation)} (all : ∀ r ∈ before, r.isOk)
    (e : Failure) : topUpResult (before ++ .error e :: later) = .error e := by
  unfold topUpResult
  rw [List.findSome?_append, List.findSome?_eq_none_iff.2 ?none]
  case none =>
    intro r mem
    have ok := all r mem
    cases r with
    | ok c => rfl
    | error e => cases ok
  rfl

/-! ## When nothing is under way -/

theorem Idle.start (registry : Registry) (pool : Pool) (now : Nat) : (Funder.start registry pool now).Idle where
  finished k st here := by simp [Funder.start, stage?] at here
  free := rfl
  queue := rfl
  settled := rfl

/-! ## What a top-up does -/

/-- The transfer succeeded. -/
def succeeded (f : Funder) (k : Nat) : Bool :=
  match f.result? k with
  | some (.ok _) => true
  | _ => false

theorem succeeded_of_result {r : Except Failure Confirmation} (finished : f.result? k = some r) :
    f.succeeded k = r.isOk := by
  unfold succeeded
  rw [finished]
  cases r <;> rfl

/-- The funder when a top-up has asked for its transfers. -/
def asked (s : Setup) (f : Funder) : Funder :=
  (f.sayAll (topUpLog s (f.needy s))).after s ((f.needy s).map .request)

/-- The transfers of a top-up. -/
def attempts (s : Setup) (f : Funder) : List Nat := List.range' f.transfers.size (f.needy s).length

/-- All transfers of a top-up of `f` are over; only then does it say how it ended. -/
def Returned (s : Setup) (f f' : Funder) : Prop := ∀ k ∈ f.attempts s, f'.result? k ≠ none

end Funder

/-- **What a top-up has done** that turned funder `f` into `f'` by some events, and said `result`.

The transfers that were asked for are one for each worker below the minimum, in their order. When all of them are over,
each has ended once; the result is their number if all of them succeeded, and otherwise the first failure in the order
in which they ended. The worker of a transfer that succeeded was paid once, no other worker was touched, and what the
accounts lost together is what the receipts cost. -/
structure ToppedUp (s : Setup) (f : Funder) (events : List Event) (result : Except Failure Nat) (f' : Funder) :
    Prop where
  noRequest : ∀ worker, .request worker ∉ events
  played : ∃ log, f' = ((f.asked s).after s events).sayAll log
  needy : ∀ w, w ∈ f.needy s ↔ ∃ a, f.registry.workers[w]? = some a ∧ a.balance < s.plan.minimum
  once : (f.needy s).Nodup
  payees : f'.payees = f.payees ++ (f.needy s).toArray
  ended : f.Returned s f' → (((f.asked s).endings s events).map (·.1)).Perm (f.attempts s)
  success : f.Returned s f' → (result = .ok (f.needy s).length ↔ ∀ k ∈ f.attempts s, f'.succeeded k)
  failure : f.Returned s f' → (∃ k ∈ f.attempts s, f'.succeeded k = false) →
    ∃ earlier k e later, (f.asked s).endings s events = earlier ++ (k, .error e) :: later ∧
      (∀ p ∈ earlier, p.2.isOk) ∧ result = .error e
  paid : ∀ i w, (f.needy s)[i]? = some w → f'.registry.workers[w]? = f.registry.workers[w]?.map fun a =>
    if f'.succeeded (f.transfers.size + i) then a.credit s.plan.prefund else a
  unpaid : ∀ w, w ∉ f.needy s → f'.registry.workers[w]? = f.registry.workers[w]?
  conserved : (∀ d ∈ (f.asked s).trace s events, d.IsFair ∧ d.Fits s) → f.wealth ≤ word256Max →
    f'.wealth + feesOf ((f.asked s).trace s events) = f.wealth

namespace Funder

variable {s : Setup} {f : Funder} {k i w : Nat} {r : Except Failure Confirmation} {events : List Event}

theorem payees_asked (s : Setup) (f : Funder) : (f.asked s).payees = f.payees ++ (f.needy s).toArray :=
  payees_after_request s (f.sayAll _) (f.needy s)

theorem payee_attempt (listed : (f.needy s)[i]? = some w) : (f.asked s).payee (f.transfers.size + i) = w := by
  have size : f.payees.size = f.transfers.size := Array.size_map
  rw [payee_eq, payees_asked, Array.getElem?_append_right (by omega), size, Nat.add_sub_cancel_left]
  simp [listed]

/-- Each transfer of a top-up is for a worker below the minimum. -/
theorem exists_of_attempt (mem : k ∈ f.attempts s) :
    ∃ i w, k = f.transfers.size + i ∧ (f.needy s)[i]? = some w ∧ (f.asked s).payee k = w := by
  obtain ⟨low, high⟩ := List.mem_range'_1.1 mem
  obtain ⟨i, rfl⟩ := Nat.exists_eq_add_of_le low
  have listed := List.getElem?_eq_getElem (Nat.lt_of_add_lt_add_left high)
  exact ⟨i, _, rfl, listed, payee_attempt listed⟩

/-- Two transfers of a top-up are for different workers. -/
theorem eq_of_payee (mem : k ∈ f.attempts s) (listed : (f.needy s)[i]? = some w)
    (same : (f.asked s).payee k = w) : k = f.transfers.size + i := by
  obtain ⟨j, w', rfl, listed', payee⟩ := exists_of_attempt mem
  rw [same] at payee
  subst payee
  have bound := (List.getElem?_eq_some_iff.1 listed').1
  rw [(List.getElem?_inj bound (needy_nodup s f)).1 (listed'.trans listed.symm)]

theorem Idle.sayAll (idle : f.Idle) (log : List Log.Entry) : (f.sayAll log).Idle :=
  ⟨idle.finished, idle.free, idle.queue, idle.settled⟩

theorem Idle.done_or_attempt (idle : f.Idle) {a : Stage} (here : (f.asked s).stage? k = some a) :
    a.isDone ∨ a = .requested ∧ k ∈ f.attempts s :=
  (idle.sayAll _).done_or_asked here

theorem mem_attempts (idle : f.Idle) (asks : ∀ worker, .request worker ∉ events)
    (mem : (k, r) ∈ (f.asked s).endings s events) : k ∈ f.attempts s :=
  (idle.sayAll _).mem_asked_of_ending asks mem

theorem stage?_asked (mem : k ∈ f.attempts s) : (f.asked s).stage? k = some .requested := by
  obtain ⟨low, high⟩ := List.mem_range'_1.1 mem
  unfold asked
  rw [stage?_after_request]
  exact (if_neg (Nat.not_lt.2 low)).trans (if_pos high)

theorem mem_endings_of_attempt (mem : k ∈ f.attempts s) :
    (k, r) ∈ (f.asked s).endings s events ↔ ((f.asked s).after s events).result? k = some r := by
  rw [mem_endings, result?_eq_none (stage?_asked mem) rfl]
  exact ⟨And.right, fun finished => ⟨rfl, finished⟩⟩

/-- **When a top-up is over, each of its transfers has ended once.** -/
theorem endings_perm (idle : f.Idle) (asks : ∀ worker, .request worker ∉ events)
    (finished : f.Returned s ((f.asked s).after s events)) :
    (((f.asked s).endings s events).map (·.1)).Perm (f.attempts s) := by
  have once : (f.attempts s).Nodup := List.nodup_range'
  refine (List.perm_ext_iff_of_nodup (endings_nodup ..) once).2 fun k => ?_
  constructor
  · intro listed
    obtain ⟨p, mem, rfl⟩ := List.mem_map.1 listed
    exact mem_attempts idle asks (show (p.1, p.2) ∈ _ from mem)
  · intro attempt
    obtain ⟨r, result⟩ := Option.ne_none_iff_exists'.1 (finished k attempt)
    exact List.mem_map.2 ⟨(k, r), (mem_endings_of_attempt attempt).2 result, rfl⟩

/-- **A top-up succeeds, with the number of its transfers, if all of them succeeded**, and only then. -/
theorem result_eq_ok_iff (idle : f.Idle) (asks : ∀ worker, .request worker ∉ events)
    (finished : f.Returned s ((f.asked s).after s events)) :
    topUpResult (((f.asked s).endings s events).map (·.2)) = .ok (f.needy s).length ↔
      ∀ k ∈ f.attempts s, ((f.asked s).after s events).succeeded k := by
  have count : (((f.asked s).endings s events).map (·.2)).length = (f.needy s).length := by
    have same := (endings_perm idle asks finished).length_eq
    rw [List.length_map] at same ⊢
    exact same.trans List.length_range'
  rw [topUpResult_eq_ok]
  constructor
  · rintro ⟨all, -⟩ k attempt
    obtain ⟨r, result⟩ := Option.ne_none_iff_exists'.1 (finished k attempt)
    have mem := (mem_endings_of_attempt attempt).2 result
    exact (succeeded_of_result result).trans (all r (List.mem_map.2 ⟨(k, r), mem, rfl⟩))
  · intro all
    refine ⟨fun r listed => ?_, count.symm⟩
    obtain ⟨⟨k, r⟩, mem, rfl⟩ := List.mem_map.1 listed
    have attempt := mem_attempts idle asks mem
    have result := (mem_endings_of_attempt attempt).1 mem
    exact (succeeded_of_result result).symm.trans (all k attempt)

/-- **A top-up fails with the failure that came first**, if one of its transfers failed. -/
theorem result_of_failed (mem : k ∈ f.attempts s) (finished : ((f.asked s).after s events).result? k ≠ none)
    (failed : ((f.asked s).after s events).succeeded k = false) :
    ∃ earlier j e later, (f.asked s).endings s events = earlier ++ (j, .error e) :: later ∧
      (∀ p ∈ earlier, p.2.isOk) ∧ topUpResult (((f.asked s).endings s events).map (·.2)) = .error e := by
  obtain ⟨r, result⟩ := Option.ne_none_iff_exists'.1 finished
  have listed := (mem_endings_of_attempt mem).2 result
  have bad : (!r.isOk) = true := by
    rw [← succeeded_of_result result, Bool.not_eq_true']
    exact failed
  obtain ⟨earlier, ⟨j, r'⟩, later, split, first, before⟩ := exists_first (p := fun p => !p.2.isOk) listed bad
  have all : ∀ p ∈ earlier, p.2.isOk := fun p inside => by simpa using before p inside
  cases r' with
  | ok c => cases first
  | error e =>
    refine ⟨earlier, j, e, later, split, all, ?_⟩
    rw [split, List.map_append, List.map_cons]
    refine topUpResult_of_first (fun r listed => ?_) e
    obtain ⟨p, inside, rfl⟩ := List.mem_map.1 listed
    exact all p inside

/-- **A worker below the minimum is paid once if its transfer succeeded**, and not at all otherwise. -/
theorem paidTo_needy (idle : f.Idle) (asks : ∀ worker, .request worker ∉ events)
    (listed : (f.needy s)[i]? = some w) :
    (f.asked s).paidTo w ((f.asked s).endings s events) =
      if ((f.asked s).after s events).succeeded (f.transfers.size + i) then 1 else 0 := by
  let k := f.transfers.size + i
  have attempt : k ∈ f.attempts s := by
    have bound := (List.getElem?_eq_some_iff.1 listed).1
    exact List.mem_range'_1.2 (by omega)
  -- what pays the worker is its own transfer
  have own : (f.asked s).paidTo w ((f.asked s).endings s events) =
      ((f.asked s).endings s events).countP fun p => p.2.isOk && p.1 = k := by
    refine List.countP_congr fun p mem => ?_
    have inside : p.1 ∈ f.attempts s := mem_attempts idle asks (show (p.1, p.2) ∈ _ from mem)
    have iff : (f.asked s).payee p.1 = w ↔ p.1 = k := by
      constructor
      · exact eq_of_payee inside listed
      · intro same
        rw [same]
        exact payee_attempt listed
    simp [iff]
  rw [own]
  cases finished : ((f.asked s).after s events).result? k with
  | some r =>
    have ended := (mem_endings_of_attempt attempt).2 finished
    rw [countP_of_key (endings_nodup s _ events) ended, succeeded_of_result finished]
  | none =>
    have open_ : ((f.asked s).after s events).succeeded k = false := by
      unfold succeeded
      rw [finished]
    rw [open_, List.countP_eq_zero.2]
    · rfl
    · intro p mem counted
      obtain ⟨-, same⟩ : p.2.isOk ∧ p.1 = k := by simpa using counted
      have ended := (mem_endings.1 (show (p.1, p.2) ∈ _ from mem)).2
      rw [same, finished] at ended
      cases ended

/-- A worker that is not below the minimum is not paid. -/
theorem paidTo_of_not_needy (idle : f.Idle) (asks : ∀ worker, .request worker ∉ events) (enough : w ∉ f.needy s) :
    (f.asked s).paidTo w ((f.asked s).endings s events) = 0 := by
  refine List.countP_eq_zero.2 fun p mem counted => enough ?_
  obtain ⟨-, same⟩ : p.2.isOk ∧ (f.asked s).payee p.1 = w := by simpa using counted
  obtain ⟨i, w', -, listed, payee⟩ := exists_of_attempt (mem_attempts idle asks (show (p.1, p.2) ∈ _ from mem))
  rw [← same, payee]
  exact List.mem_of_getElem? listed

/-- When a top-up begins, nothing is out, and every transfer is for a worker that there is. -/
theorem solvent_asked (idle : f.Idle) (word : f.registry.funding.balance ≤ word256Max) :
    Locked (f.asked s) ∧ Solvent s (f.asked s) ∧ (f.asked s).Payable := by
  have same : (f.asked s).committed = f.committed ∧ (f.asked s).registry = f.registry := by
    unfold asked
    rw [after_request]
    exact ⟨rfl, rfl⟩
  refine ⟨?locked, ?solvent, ?payable⟩
  case locked => exact ((idle.sayAll _).orderly.after s _).locked
  case solvent =>
    refine .of_quiet (fun k st here => ?_) (same.1.trans idle.settled) (by rw [same.2]; exact word)
    rcases idle.done_or_attempt here with finished | ⟨rfl, -⟩
    · cases st with
      | done r => rfl
      | _ => cases finished
    · rfl
  case payable =>
    intro k st here open_
    rcases idle.done_or_attempt here with finished | ⟨-, mem⟩
    · rw [finished] at open_
      cases open_
    · obtain ⟨i, w, -, listed, payee⟩ := exists_of_attempt mem
      rw [payee, same.2]
      exact List.mem_range.1 (List.mem_of_mem_filter (List.mem_of_getElem? listed))

end Funder

namespace ToppedUp

variable {s : Setup} {f : Funder} {events : List Event}

/-- **Whatever happens to the transfers of a top-up**, as long as no others are asked for, is what a top-up does. -/
theorem of_events (enabled : s.plan.disabled = false) (idle : f.Idle) (asks : ∀ worker, .request worker ∉ events)
    (log : List Log.Entry) :
    ToppedUp s f events (Funder.topUpResult (((f.asked s).endings s events).map (·.2)))
      (((f.asked s).after s events).sayAll log) := by
  let f' := (f.asked s).after s events
  have registry : (f.asked s).registry = f.registry := by
    unfold Funder.asked
    rw [Funder.after_request]
    rfl
  refine ⟨asks, ⟨log, rfl⟩, fun w => Funder.mem_needy enabled, Funder.needy_nodup s f, ?payees,
    Funder.endings_perm idle asks, Funder.result_eq_ok_iff idle asks, ?failure, ?paid, ?unpaid, ?conserved⟩
  case payees => exact (Funder.payees_after asks).trans (Funder.payees_asked s f)
  case failure =>
    rintro finished ⟨k, attempt, failed⟩
    exact Funder.result_of_failed attempt (finished k attempt) failed
  case paid =>
    intro i w listed
    have paid := Funder.worker_after (s := s) (f := f.asked s) asks w
    rw [Funder.paidTo_needy idle asks listed, registry] at paid
    refine paid.trans ?_
    have same : (f'.sayAll log).succeeded (f.transfers.size + i) = f'.succeeded (f.transfers.size + i) := rfl
    rw [same]
    cases f'.succeeded (f.transfers.size + i) <;> rfl
  case unpaid =>
    intro w enough
    have paid := Funder.worker_after (s := s) (f := f.asked s) asks w
    rw [Funder.paidTo_of_not_needy idle asks enough, registry] at paid
    exact paid.trans Option.map_id'
  case conserved =>
    intro fair word
    obtain ⟨lock, solvent, payable⟩ := Funder.solvent_asked (s := s) idle (Nat.le_trans (Nat.le_add_right ..) word)
    have same : (f.asked s).wealth = f.wealth := by
      unfold Funder.wealth
      rw [registry]
    have kept := Funder.wealth_after asks lock solvent (fun d told => (fair d told).1) (fun d told => (fair d told).2)
      payable (by rw [same]; exact word)
    exact kept.trans same

end ToppedUp

/-- **A top-up is complete**, and comes to an end where endpoints answer. -/
theorem topUp_complete (s : Setup) (net : Net) (f : Funder) (enabled : s.plan.disabled = false) (idle : f.Idle) :
    (net.Serves f.pool.good → f.Returned s (f.topUp s net).2.1) ∧
      ∃ events, ToppedUp s f events (f.topUp s net).1 (f.topUp s net).2.1 := by
  unfold Funder.topUp
  rw [enabled, if_neg Bool.false_ne_true]
  dsimp only
  split
  · next nobody =>
    have nobody : f.needy s = [] := List.isEmpty_iff.1 nobody
    refine ⟨fun _ k mem => ?_, [], ?_⟩
    · unfold Funder.attempts at mem
      rw [nobody] at mem
      cases mem
    · have same : f.sayAll (Funder.topUpLog s (f.needy s)) = ((f.asked s).after s []).sayAll [] := by
        unfold Funder.asked
        rw [nobody]
        simp [Funder.after, Funder.sayAll]
      rw [same]
      exact ToppedUp.of_events enabled idle (fun _ => List.not_mem_nil) []
  · have idle' := idle.sayAll (Funder.topUpLog s (f.needy s))
    obtain ⟨events, r⟩ := Simulation.play_recorded s none
      (Simulation.ask s net (f.sayAll (Funder.topUpLog s (f.needy s))) (f.needy s) Funder.topUpWindow) rfl
    change Simulation.Recorded s (f.asked s) _ events _ at r
    refine ⟨fun served k mem => ?_, events, ?_⟩
    · obtain ⟨st, here⟩ := (Funder.exists_stage_after (s := s) r.noRequest).2 ⟨_, Funder.stage?_asked mem⟩
      rw [← r.funder] at here
      have finished := Simulation.play_over idle' served (by decide) here
      show Funder.result? (Simulation.funder _) k ≠ none
      cases st with
      | done r =>
        rw [Funder.result?_eq_some.2 here]
        exact Option.some_ne_none r
      | _ => cases finished
    · rw [Simulation.results_of_recorded r, r.funder]
      exact ToppedUp.of_events enabled idle r.noRequest _

/-- A funding account that has the greatest amount there is, and one worker. -/
def rich (balance : Nat) : Funder :=
  .start
    ⟨{ Account.ofKey ⟨1, by decide, by decide⟩ 1337 with balance := word256Max },
      #[{ Account.ofKey ⟨2, by decide, by decide⟩ 1337 with balance := balance }], 0⟩
    ⟨1, [0], 0⟩ 0

/-- A top-up of one worker comes to an end. -/
theorem topUp_complete_one :
    let s : Setup := ⟨⟨1, 1⟩, ⟨1, 1⟩, standardPatience, []⟩
    let net : Net := ⟨#[.usual], #[]⟩
    s.plan.disabled = false ∧ (rich 0).Idle ∧ net.Serves (rich 0).pool.good ∧ (rich 0).attempts s = [0] ∧
      (rich 0).Returned s ((rich 0).topUp s net).2.1 ∧
      ∃ events, ToppedUp s (rich 0) events ((rich 0).topUp s net).1 ((rich 0).topUp s net).2.1 := by
  intro s net
  have enabled : s.plan.disabled = false := rfl
  have idle : (rich 0).Idle := Funder.Idle.start _ _ _
  have served : net.Serves (rich 0).pool.good := by
    intro i mem
    cases List.mem_singleton.1 mem
    exact ⟨_, rfl, Network.Endpoint.serves_usual⟩
  obtain ⟨returned, done⟩ := topUp_complete s net (rich 0) enabled idle
  exact ⟨enabled, idle, served, rfl, returned served, done⟩

/-! ## The greatest amount -/

/-- A worker with less than two wei is to receive the greatest amount there is. -/
def generous : Setup := ⟨⟨word256Max, 2⟩, ⟨1, 1⟩, standardPatience, []⟩

/-- The funder after it paid its worker the greatest amount there is. -/
def richAfter (balance : Nat) : Funder := ((rich balance).topUp generous ⟨#[.usual], #[]⟩).2.1

theorem richAfter_one :
    (richAfter 1).result? 0 = some (.ok Network.Endpoint.usualReceipt) ∧
      (richAfter 1).registry.workers[0]?.map (·.balance) = some word256Max := by
  decide +kernel

theorem richAfter_zero :
    (richAfter 0).result? 0 = some (.ok Network.Endpoint.usualReceipt) ∧ (richAfter 0).wealth = word256Max := by
  decide +kernel

/-- **Balances stop at the greatest amount there is**: a worker with one wei does not receive all that it is sent; the
fee of a transfer that takes the whole balance of the funding account is not taken from it. And a top-up does not come
to an end if its endpoint never answers. -/
theorem topUp_saturates :
    ((richAfter 1).result? 0 = some (.ok Network.Endpoint.usualReceipt) ∧
      (richAfter 1).registry.workers[0]?.map (·.balance) ≠ some (1 + generous.plan.prefund)) ∧
    ((rich 0).wealth ≤ word256Max ∧
      (richAfter 0).result? 0 = some (.ok Network.Endpoint.usualReceipt) ∧
      Network.Endpoint.usualReceipt.totalFee ≤ Fee.floor * Payload.transferGas ∧
      (richAfter 0).wealth + Network.Endpoint.usualReceipt.totalFee ≠ (rich 0).wealth) ∧
    ((rich 0).topUp ⟨⟨1, 1⟩, ⟨0, 0⟩, standardPatience, []⟩
      ⟨#[{ Network.Endpoint.usual with fees := ⟨.lastRepeats [⟨0, true, none, none⟩], 0⟩ }], #[]⟩).2.1.result? 0 =
        none := by
  have before : (rich 0).wealth = word256Max := rfl
  refine ⟨⟨richAfter_one.1, ?less⟩, ⟨Nat.le_of_eq before, richAfter_zero.1, by decide, ?lost⟩, by decide +kernel⟩
  case less =>
    rw [richAfter_one.2]
    decide
  case lost =>
    rw [richAfter_zero.2, before]
    decide

end TxLoad.Funding
