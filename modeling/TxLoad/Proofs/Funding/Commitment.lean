import TxLoad.Proofs.Funding.Numbering
import TxLoad.Proofs.Funding.Transition
import Mathlib.Algebra.BigOperators.Group.List.Basic
import Mathlib.Data.List.Nodup

/-!
# What is committed, and what may still land

A transfer that was accepted may land as long as no receipt for it came in. What it can cost is committed only while
its receipt is waited for: when the wait ends without a receipt, nothing of it stays committed.

- `unreceipted` lists the accepted transfers without a receipt, `worstCost` is what transactions can cost together;
- `Priced`: the transaction of a transfer can cost what was checked, and that is more than nothing;
- `Tracked` says which of the unreceipted transfers are still waited for, and that these are exactly what is committed;
  every move keeps it (`Tracked.move`);
- **what is committed covers the unreceipted transfers exactly if all of them are still waited for**
  (`unreceipted_covered_iff`).
-/

namespace TxLoad

/-- The most that a signed transaction can cost. -/
def SignedTransaction.maxCost (t : SignedTransaction) : Nat :=
  Wei.plus (Wei.times t.transaction.feeCap t.transaction.gas) t.transaction.value

namespace Funding

/-! ## Transfers without a receipt -/

namespace Action

/-- The transfer that is accepted, with its transaction. -/
def dispatched? : Action → Option (Nat × SignedTransaction)
  | accepted k t => some (k, t)
  | _ => none

/-- The receipt of transfer `k` comes in. -/
def settles (k : Nat) : Action → Bool
  | received j _ _ => j = k
  | _ => false

end Action

/-- The accepted transfers whose receipt has not come in. -/
def unreceipted (ds : List Action) : List (Nat × SignedTransaction) :=
  (ds.filterMap Action.dispatched?).filter fun p => !ds.any (Action.settles p.1)

/-- What the transactions of transfers can cost together. -/
def worstCost (ps : List (Nat × SignedTransaction)) : Nat := (ps.map (·.2.maxCost)).sum

/-- The receipt of the transfer is waited for. -/
def Stage.isOut : Stage → Bool
  | awaiting _ _ _ => true
  | _ => false

theorem Stage.isOut_of_isIdle {st : Stage} (h : st.isIdle) : st.isOut = false := by
  cases st <;> first | rfl | cases h

/-- The receipt of transfer `k` is waited for. -/
def Funder.isOut (f : Funder) (k : Nat) : Bool := (f.stage? k).any Stage.isOut

/-- What is accepted is in the trace, and has no receipt there. -/
theorem mem_unreceipted {ds : List Action} {k : Nat} {t : SignedTransaction} :
    (k, t) ∈ unreceipted ds ↔ .accepted k t ∈ ds ∧ ∀ o c, .received k o c ∉ ds := by
  unfold unreceipted
  rw [List.mem_filter, List.mem_filterMap]
  constructor
  · rintro ⟨⟨d, told, dispatched⟩, open_⟩
    refine ⟨?_, fun o c receipt => ?_⟩
    · cases d with
      | accepted j u =>
        cases dispatched
        exact told
      | _ => cases dispatched
    · have settled : ds.any (Action.settles k) = true := List.any_eq_true.2 ⟨_, receipt, by simp [Action.settles]⟩
      simp [settled] at open_
  · rintro ⟨told, none⟩
    refine ⟨⟨_, told, rfl⟩, ?_⟩
    rw [Bool.not_eq_true', List.any_eq_false]
    intro d mem settles
    cases d with
    | received j o c =>
      obtain rfl : j = k := by simpa [Action.settles] using settles
      exact none o c mem
    | _ => cases settles

/-- One more action may add an accepted transfer, and settle one. -/
theorem unreceipted_concat (ds : List Action) (d : Action) :
    unreceipted (ds ++ [d]) =
      (ds.filterMap Action.dispatched? ++ d.dispatched?.toList).filter fun p =>
        !ds.any (Action.settles p.1) && !d.settles p.1 := by
  have last : [d].filterMap Action.dispatched? = d.dispatched?.toList := by
    cases dispatched : d.dispatched? <;> simp [dispatched]
  unfold unreceipted
  rw [List.filterMap_append, last]
  refine List.filter_congr fun p _ => ?_
  rw [List.any_append, Bool.not_or, List.any_cons, List.any_nil, Bool.or_false]

theorem unreceipted_concat_of_other {ds : List Action} {d : Action} (dispatches : d.dispatched? = none)
    (settles : ∀ k, d.settles k = false) : unreceipted (ds ++ [d]) = unreceipted ds := by
  rw [unreceipted_concat, dispatches, Option.toList_none, List.append_nil]
  simp only [settles, Bool.not_false, Bool.and_true]
  rfl

/-- A transfer that is accepted has no receipt yet. -/
theorem unreceipted_accept {ds : List Action} {k : Nat} (t : SignedTransaction) (fresh : ∀ o c, .received k o c ∉ ds) :
    unreceipted (ds ++ [.accepted k t]) = unreceipted ds ++ [(k, t)] := by
  have none : ds.any (Action.settles k) = false := by
    rw [List.any_eq_false]
    intro d mem settles
    cases d with
    | received j o c =>
      obtain rfl : j = k := by simpa [Action.settles] using settles
      exact fresh o c mem
    | _ => cases settles
  rw [unreceipted_concat, List.filter_append]
  simp [Action.settles, Action.dispatched?, unreceipted, none]

/-- A receipt settles its transfer. -/
theorem unreceipted_receive (ds : List Action) (k : Nat) (o : Offer) (c : Confirmation) :
    unreceipted (ds ++ [.received k o c]) = (unreceipted ds).filter fun p => p.1 ≠ k := by
  have none : (Action.received k o c).dispatched? = none := rfl
  rw [unreceipted_concat, none, Option.toList_none, List.append_nil]
  unfold unreceipted
  rw [List.filter_filter]
  refine List.filter_congr fun p _ => ?_
  rw [Bool.and_comm]
  by_cases same : p.1 = k
  · simp [Action.settles, same]
  · simp [Action.settles, same, Ne.symm same]

/-- Without one of the transfers, the others cost less by what that one can cost. -/
theorem worstCost_filter_ne {ps : List (Nat × SignedTransaction)} (distinct : (ps.map (·.1)).Nodup) {k : Nat}
    {t : SignedTransaction} (mem : (k, t) ∈ ps) :
    worstCost (ps.filter fun p => p.1 ≠ k) + t.maxCost = worstCost ps := by
  induction ps with
  | nil => cases mem
  | cons p ps ih =>
    rw [List.map_cons, List.nodup_cons] at distinct
    obtain ⟨absent, distinct⟩ := distinct
    have total : worstCost (p :: ps) = p.2.maxCost + worstCost ps := by
      simp [worstCost]
    rcases List.mem_cons.1 mem with rfl | mem
    · have others : ps.filter (fun p => decide (p.1 ≠ k)) = ps := by
        refine List.filter_eq_self.2 fun p inside => ?_
        have other : p.1 ≠ k := fun same => absent (List.mem_map.2 ⟨p, inside, same⟩)
        simpa using other
      rw [List.filter_cons_of_neg (by simp), others, total]
      exact Nat.add_comm ..
    · have other : p.1 ≠ k := fun same => absent (List.mem_map.2 ⟨(k, t), mem, same.symm⟩)
      have rest := ih distinct mem
      rw [List.filter_cons_of_pos (by simpa using other), total]
      have first : worstCost (p :: ps.filter fun p => p.1 ≠ k) = p.2.maxCost + worstCost (ps.filter fun p => p.1 ≠ k) := by
        simp [worstCost]
      omega

/-! ## Prices -/

/-- The transaction of a transfer that is signed and not settled. -/
def Stage.transaction? : Stage → Option SignedTransaction
  | sending _ t | awaiting _ t _ => some t
  | _ => none

/-- The offer asks for the most that a transfer can cost at its quote, and its quote is not below the floor. -/
structure Offer.IsPriced (s : Setup) (o : Offer) : Prop where
  required : o.required = s.maxCost o.quote
  floored : Fee.floor ≤ o.quote.feeCap

theorem Offer.IsPriced.pos {s : Setup} {o : Offer} (h : o.IsPriced s) : 0 < o.required := by
  have floored := h.floored
  rw [h.required]
  unfold Setup.maxCost Payload.maxCost Payload.transfer Payload.transferGas Wei.times Wei.plus word256Max
  unfold Fee.floor Wei.perGwei at floored
  dsimp only
  omega

/-- A transfer is priced: what it asks for is a price, and its transaction can cost as much. -/
structure Stage.IsPriced (s : Setup) (st : Stage) : Prop where
  offer : ∀ o, st.offer? = some o → o.IsPriced s
  transaction : ∀ o t, st.offer? = some o → st.transaction? = some t → t.maxCost = o.required

/-- **Every transfer is priced.** -/
def Priced (s : Setup) (f : Funder) : Prop := ∀ k st, f.stage? k = some st → st.IsPriced s

namespace Priced

variable {s : Setup} {f f' : Funder} {k : Nat} {a b : Stage} {d : Option Action}

theorem start (registry : Registry) (pool : Pool) (now : Nat) : Priced s (Funder.start registry pool now) := by
  intro k st there
  simp [Funder.start, Funder.stage?] at there

/-- A transfer that comes to a stage leaves the others priced. -/
theorem reach (h : Priced s f) (here : f.stage? k = some a) (reached : f'.transfers = (f.reach k b).transfers)
    (mine : a.IsPriced s → b.IsPriced s) : Priced s f' := by
  intro j st there
  rcases Funder.mine_or_old here reached there with ⟨-, rfl⟩ | ⟨-, old⟩
  · exact mine (h k a here)
  · exact h j st old

theorem of_no_offer (none : b.offer? = none) : b.IsPriced s where
  offer _ offered := absurd (none.symm.trans offered) nofun
  transaction _ _ offered := absurd (none.symm.trans offered) nofun

/-- **Every move keeps the transfers priced.** -/
theorem move (h : Priced s f) (m : Move s f d f') : Priced s f' := by
  cases m with
  | rest => exact h
  | request worker =>
    intro j st there
    rcases Funder.stage?_request rfl there with old | rfl
    · exact h j st old
    · exact of_no_offer rfl
  | @wait k a b queue log here idle waits fair onward floored =>
    refine h.reach here rfl fun _ => ⟨fun o offered => ⟨fair o offered, floored o offered⟩, fun o t _ signed => ?_⟩
    cases b with
    | sending | awaiting => cases waits
    | _ => cases signed
  | refuse here | unsigned here | reread here | lapse here => exact h.reach here rfl fun _ => of_no_offer rfl
  | receive here => exact h.reach here rfl fun _ => of_no_offer rfl
  | @sign k a o t log here idle mine fair covered made onward floored =>
    refine h.reach here rfl fun before => ?_
    have price : o.IsPriced s := by
      rcases fair with old | required
      · exact before.offer o old
      · rcases floored with old | floored
        · exact before.offer o old
        · exact ⟨required, floored⟩
    refine ⟨?_, ?_⟩
    · rintro _ ⟨⟩
      exact price
    · rintro _ _ ⟨⟩ ⟨⟩
      rw [price.required, SignedTransaction.maxCost, made]
      rfl
  | accept here =>
    refine h.reach here rfl fun before => ⟨?_, ?_⟩
    · rintro _ ⟨⟩
      exact before.offer _ rfl
    · rintro _ _ ⟨⟩ ⟨⟩
      exact before.transaction _ _ rfl rfl
  | reject here =>
    refine h.reach here rfl fun before => ⟨?_, nofun⟩
    rintro _ ⟨⟩
    exact before.offer _ rfl

end Priced

/-! ## Amounts that fit -/

/-- What is committed fits a word, also when what is being sent comes to it. -/
structure Within (f : Funder) : Prop where
  balance : f.registry.funding.balance ≤ word256Max
  committed : f.committed ≤ word256Max
  pledged : ∀ k o t, f.stage? k = some (.sending o t) → f.committed + o.required ≤ word256Max

namespace Within

variable {s : Setup} {f f' : Funder} {k : Nat} {a b : Stage} {d : Option Action}

theorem start (registry : Registry) (pool : Pool) (now : Nat) (word : registry.funding.balance ≤ word256Max) :
    Within (Funder.start registry pool now) where
  balance := word
  committed := Nat.zero_le _
  pledged k o t there := by simp [Funder.start, Funder.stage?] at there

/-- A transfer that comes to a stage without committing more keeps the amounts within a word. -/
theorem reach (h : Within f) (here : f.stage? k = some a) (reached : f'.transfers = (f.reach k b).transfers)
    (mine : ∀ o t, b = .sending o t → f.committed + o.required ≤ word256Max) (committed : f'.committed ≤ f.committed)
    (balance : f'.registry.funding.balance ≤ f.registry.funding.balance) : Within f' where
  balance := Nat.le_trans balance h.balance
  committed := Nat.le_trans committed h.committed
  pledged j o t there := by
    rcases Funder.mine_or_old here reached there with ⟨-, sending⟩ | ⟨-, old⟩
    · have := mine o t sending.symm
      omega
    · have := h.pledged j o t old
      omega

/-- **Every move keeps the amounts within a word.** -/
theorem move (h : Within f) (lock : Locked f) (m : Move s f d f') : Within f' := by
  cases m with
  | rest => exact ⟨h.balance, h.committed, h.pledged⟩
  | request worker =>
    refine ⟨h.balance, h.committed, fun j o t there => ?_⟩
    rcases @Funder.stage?_request f _ worker rfl j _ there with old | new
    · exact h.pledged j o t old
    · cases new
  | wait here idle waits =>
    refine h.reach here rfl ?_ (Nat.le_refl _) (Nat.le_refl _)
    rintro o t rfl
    cases waits
  | refuse here | unsigned here | reject here | reread here =>
    exact h.reach here rfl nofun (Nat.le_refl _) (Nat.le_refl _)
  | sign here idle mine fair covered =>
    refine h.reach here rfl ?_ (Nat.le_refl _) (Nat.le_refl _)
    rintro _ _ ⟨⟩
    -- what is required is available, or nothing is
    have balance := h.balance
    have committed := h.committed
    unfold Funder.available Wei.minus at covered
    omega
  | accept here =>
    refine ⟨h.balance, Nat.min_le_right .., fun j o t there => ?_⟩
    rcases Funder.mine_or_old here rfl there with ⟨-, mine⟩ | ⟨other, old⟩
    · cases mine
    · cases lock.others here rfl other old
  | receive here => exact h.reach here rfl nofun (Nat.sub_le ..) (Nat.sub_le ..)
  | lapse here => exact h.reach here rfl nofun (Nat.sub_le ..) (Nat.le_refl _)

end Within

/-! ## What is waited for -/

/-- **The unreceipted transfers are tracked**: a transfer whose receipt is waited for is one of them, one of them is
waited for or over, and what is committed is what those that are waited for can cost together. -/
structure Tracked (f : Funder) (ds : List Action) : Prop where
  distinct : ((unreceipted ds).map (·.1)).Nodup
  out : ∀ k o t since, f.stage? k = some (.awaiting o t since) → (k, t) ∈ unreceipted ds
  listed : ∀ k t, (k, t) ∈ unreceipted ds → ∃ st, f.stage? k = some st ∧ (st.isOut ∨ st.isDone)
  settled : ∀ k o c, .received k o c ∈ ds → ∃ st, f.stage? k = some st ∧ st.isDone
  sum : f.committed = worstCost ((unreceipted ds).filter fun p => f.isOut p.1)
  pos : ∀ p ∈ unreceipted ds, 0 < p.2.maxCost

namespace Tracked

variable {s : Setup} {f f' : Funder} {ds : List Action} {d : Option Action} {k : Nat} {a b : Stage}

theorem isOut_of_stage {st : Stage} (here : f.stage? k = some st) : f.isOut k = st.isOut := by
  rw [Funder.isOut, here]
  rfl

theorem isOut_reach (here : f.stage? k = some a) (reached : f'.transfers = (f.reach k b).transfers) {j : Nat}
    (other : k ≠ j) : f'.isOut j = f.isOut j := by
  rw [Funder.isOut, Funder.stage?_reach here reached, if_neg other]
  rfl

/-- A transfer that was not accepted, or whose wait is not over, is no settled one. -/
theorem not_received (h : Tracked f ds) (here : f.stage? k = some a) (onward : a.isDone = false) (o : Offer)
    (c : Confirmation) : .received k o c ∉ ds := by
  intro told
  obtain ⟨st, there, ended⟩ := h.settled k o c told
  cases here.symm.trans there
  rw [onward] at ended
  cases ended

/-- A transfer that is neither waited for nor over was not accepted. -/
theorem not_mem (h : Tracked f ds) (here : f.stage? k = some a) (home : a.isOut = false) (onward : a.isDone = false)
    {p : Nat × SignedTransaction} (mem : p ∈ unreceipted ds) : k ≠ p.1 := by
  rintro rfl
  obtain ⟨st, there, out | ended⟩ := h.listed p.1 p.2 mem
  · cases here.symm.trans there
    rw [home] at out
    cases out
  · cases here.symm.trans there
    rw [onward] at ended
    cases ended

theorem start (registry : Registry) (pool : Pool) (now : Nat) : Tracked (Funder.start registry pool now) [] where
  distinct := List.nodup_nil
  out k o t since there := by simp [Funder.start, Funder.stage?] at there
  listed k t mem := by cases mem
  settled k o c told := by cases told
  sum := rfl
  pos p mem := by cases mem

/-- A transfer that goes on without being accepted or settled leaves the others as they are. -/
theorem stay (h : Tracked f ds) (here : f.stage? k = some a) (reached : f'.transfers = (f.reach k b).transfers)
    (before : a.isOut = false) (onward : a.isDone = false) (after : b.isOut = false)
    (committed : f'.committed = f.committed)
    (silent : ∀ x, d = some x → x.dispatched? = none ∧ ∀ j, x.settles j = false) : Tracked f' (ds ++ d.toList) := by
  have same : unreceipted (ds ++ d.toList) = unreceipted ds := by
    cases d with
    | none => rw [Option.toList_none, List.append_nil]
    | some x => exact unreceipted_concat_of_other (silent x rfl).1 (silent x rfl).2
  have elsewhere {p : Nat × SignedTransaction} (mem : p ∈ unreceipted ds) : k ≠ p.1 := h.not_mem here before onward mem
  refine ⟨by rw [same]; exact h.distinct, ?out, ?listed, ?settled, ?sum, by rw [same]; exact h.pos⟩
  case out =>
    intro j o t since there
    rw [same]
    rcases Funder.mine_or_old here reached there with ⟨-, rfl⟩ | ⟨-, old⟩
    · cases after
    · exact h.out j o t since old
  case listed =>
    intro j t mem
    rw [same] at mem
    rw [Funder.stage?_reach here reached, if_neg (elsewhere mem)]
    exact h.listed j t mem
  case settled =>
    intro j o c told
    have old : .received j o c ∈ ds := by
      rcases List.mem_append.1 told with old | new
      · exact old
      · have settles := (silent _ (Option.mem_toList.1 new)).2 j
        simp [Action.settles] at settles
    rw [Funder.stage?_reach here reached]
    split
    · next mine =>
      subst mine
      exact absurd old (h.not_received here onward o c)
    · exact h.settled j o c old
  case sum =>
    rw [same, committed, h.sum]
    refine congrArg worstCost (List.filter_congr fun p mem => ?_)
    rw [isOut_reach here reached (elsewhere mem)]

/-- An accepted transfer is waited for, and what it can cost is committed. -/
theorem accept (h : Tracked f ds) {o : Offer} {t : SignedTransaction} {since : Nat}
    (here : f.stage? k = some (.sending o t)) (reached : f'.transfers = (f.reach k (.awaiting o t since)).transfers)
    (cost : t.maxCost = o.required) (pos : 0 < o.required) (fits : f.committed + o.required ≤ word256Max)
    (committed : f'.committed = Wei.plus f.committed o.required) : Tracked f' (ds ++ [.accepted k t]) := by
  have more : unreceipted (ds ++ [.accepted k t]) = unreceipted ds ++ [(k, t)] :=
    unreceipted_accept t (h.not_received here rfl)
  have elsewhere {p : Nat × SignedTransaction} (mem : p ∈ unreceipted ds) : k ≠ p.1 := h.not_mem here rfl rfl mem
  have mine : f'.stage? k = some (.awaiting o t since) := by rw [Funder.stage?_reach here reached, if_pos rfl]
  refine ⟨?distinct, ?out, ?listed, ?settled, ?sum, ?pos⟩
  case distinct =>
    rw [more, List.map_append, List.nodup_append]
    refine ⟨h.distinct, by simp, fun i old j new same => ?_⟩
    obtain ⟨p, mem, rfl⟩ := List.mem_map.1 old
    exact elsewhere mem ((List.mem_singleton.1 new).symm.trans same.symm)
  case out =>
    intro j o' t' since' there
    rw [more]
    rcases Funder.mine_or_old here reached there with ⟨rfl, new⟩ | ⟨-, old⟩
    · cases new
      exact List.mem_append_right _ List.mem_cons_self
    · exact List.mem_append_left _ (h.out j o' t' since' old)
  case listed =>
    intro j t' mem
    rw [more] at mem
    rcases List.mem_append.1 mem with old | new
    · rw [Funder.stage?_reach here reached, if_neg (elsewhere old)]
      exact h.listed j t' old
    · cases List.mem_singleton.1 new
      exact ⟨_, mine, .inl rfl⟩
  case settled =>
    intro j o' c told
    have old : .received j o' c ∈ ds := by simpa using told
    rw [Funder.stage?_reach here reached]
    split
    · next same =>
      subst same
      exact absurd old (h.not_received here rfl o' c)
    · exact h.settled j o' c old
  case sum =>
    have before : (unreceipted ds).filter (fun p => f'.isOut p.1) = (unreceipted ds).filter fun p => f.isOut p.1 :=
      List.filter_congr fun p mem => isOut_reach here reached (elsewhere mem)
    have new : [(k, t)].filter (fun p => f'.isOut p.1) = [(k, t)] := by
      simp [isOut_of_stage mine, Stage.isOut]
    have total : worstCost ((unreceipted ds).filter (fun p => f.isOut p.1) ++ [(k, t)]) =
        worstCost ((unreceipted ds).filter fun p => f.isOut p.1) + t.maxCost := by
      simp [worstCost]
    have exactly : Wei.plus f.committed o.required = f.committed + o.required := Nat.min_eq_left fits
    rw [more, List.filter_append, before, new, total, committed, exactly, h.sum, cost]
  case pos =>
    intro p mem
    rw [more] at mem
    rcases List.mem_append.1 mem with old | new
    · exact h.pos p old
    · cases List.mem_singleton.1 new
      rw [cost]
      exact pos

/-- The end of a wait frees what the transfer can cost, whether a receipt came in or not. -/
theorem finish (h : Tracked f ds) {o : Offer} {t : SignedTransaction} {since : Nat}
    {result : Except Failure Confirmation} (here : f.stage? k = some (.awaiting o t since))
    (reached : f'.transfers = (f.reach k (.done result)).transfers) (cost : t.maxCost = o.required)
    (committed : f'.committed = Wei.minus f.committed o.required)
    (action : d = none ∨ ∃ c, d = some (.received k o c)) : Tracked f' (ds ++ d.toList) := by
  have mine : f'.stage? k = some (.done result) := by rw [Funder.stage?_reach here reached, if_pos rfl]
  have mem : (k, t) ∈ unreceipted ds := h.out k o t since here
  have subset {p : Nat × SignedTransaction} (inside : p ∈ unreceipted (ds ++ d.toList)) : p ∈ unreceipted ds := by
    rcases action with rfl | ⟨c, rfl⟩
    · rwa [Option.toList_none, List.append_nil] at inside
    · rw [Option.toList_some, unreceipted_receive] at inside
      exact (List.mem_filter.1 inside).1
  -- with or without a receipt, the others are those that are waited for
  have others : (unreceipted (ds ++ d.toList)).filter (fun p => f'.isOut p.1) =
      ((unreceipted ds).filter fun p => f.isOut p.1).filter fun p => p.1 ≠ k := by
    have pointwise (p : Nat × SignedTransaction) : f'.isOut p.1 = (f.isOut p.1 && decide (p.1 ≠ k)) := by
      by_cases same : p.1 = k
      · rw [same, isOut_of_stage mine]
        simp [Stage.isOut]
      · rw [isOut_reach here reached (Ne.symm same)]
        simp [same]
    rw [List.filter_filter]
    rcases action with rfl | ⟨c, rfl⟩
    · rw [Option.toList_none, List.append_nil]
      refine List.filter_congr fun p _ => ?_
      rw [pointwise, Bool.and_comm]
    · rw [Option.toList_some, unreceipted_receive, List.filter_filter]
      refine List.filter_congr fun p _ => ?_
      rw [pointwise]
      cases f.isOut p.1 <;> simp
  refine ⟨?distinct, ?out, ?listed, ?settled, ?sum, ?pos⟩
  case distinct =>
    rcases action with rfl | ⟨c, rfl⟩
    · rw [Option.toList_none, List.append_nil]
      exact h.distinct
    · rw [Option.toList_some, unreceipted_receive]
      exact h.distinct.sublist (List.filter_sublist.map _)
  case out =>
    intro j o' t' since' there
    rcases Funder.mine_or_old here reached there with ⟨-, finished⟩ | ⟨other, old⟩
    · cases finished
    · have inside := h.out j o' t' since' old
      rcases action with rfl | ⟨c, rfl⟩
      · rwa [Option.toList_none, List.append_nil]
      · rw [Option.toList_some, unreceipted_receive]
        exact List.mem_filter.2 ⟨inside, by simpa using Ne.symm other⟩
  case listed =>
    intro j t' inside
    rw [Funder.stage?_reach here reached]
    split
    · exact ⟨_, rfl, .inr rfl⟩
    · exact h.listed j t' (subset inside)
  case settled =>
    intro j o' c' told
    rw [Funder.stage?_reach here reached]
    split
    · exact ⟨_, rfl, rfl⟩
    · next other =>
      rcases List.mem_append.1 told with old | new
      · exact h.settled j o' c' old
      · rcases action with rfl | ⟨c, rfl⟩
        · cases new
        · cases Option.mem_toList.1 new
          exact absurd rfl other
  case sum =>
    have out : (k, t) ∈ (unreceipted ds).filter fun p => f.isOut p.1 :=
      List.mem_filter.2 ⟨mem, isOut_of_stage here⟩
    have distinct : (((unreceipted ds).filter fun p => f.isOut p.1).map (·.1)).Nodup :=
      h.distinct.sublist (List.filter_sublist.map _)
    have less := worstCost_filter_ne distinct out
    have before := h.sum
    rw [others, committed]
    unfold Wei.minus
    omega
  case pos => exact fun p inside => h.pos p (subset inside)

/-- **Every move keeps the transfers tracked.** -/
theorem move (h : Tracked f ds) (priced : Priced s f) (within : Within f) (m : Move s f d f') :
    Tracked f' (ds ++ d.toList) := by
  cases m with
  | rest =>
    rw [Option.toList_none, List.append_nil]
    exact ⟨h.distinct, h.out, h.listed, h.settled, h.sum, h.pos⟩
  | request worker =>
    rw [Option.toList_none, List.append_nil]
    refine ⟨h.distinct, fun j o t since there => ?_, fun j t mem => ?_, fun j o c told => ?_, ?_, h.pos⟩
    · rcases @Funder.stage?_request f _ worker rfl j _ there with old | new
      · exact h.out j o t since old
      · cases new
    · obtain ⟨st, old, known⟩ := h.listed j t mem
      exact ⟨st, Funder.stage?_request_of_some rfl old, known⟩
    · obtain ⟨st, old, ended⟩ := h.settled j o c told
      exact ⟨st, Funder.stage?_request_of_some rfl old, ended⟩
    · refine h.sum.trans (congrArg worstCost (List.filter_congr fun p mem => ?_))
      obtain ⟨st, old, -⟩ := h.listed p.1 p.2 mem
      rw [isOut_of_stage old, isOut_of_stage (Funder.stage?_request_of_some rfl old)]
  | wait here idle waits fair onward =>
    exact h.stay here rfl (Stage.isOut_of_isIdle idle) onward (Stage.isOut_of_isIdle waits) rfl nofun
  | refuse here idle mine onward => exact h.stay here rfl (Stage.isOut_of_isIdle idle) onward rfl rfl nofun
  | unsigned here idle mine unsignable onward =>
    refine h.stay here rfl (Stage.isOut_of_isIdle idle) onward rfl rfl ?_
    rintro _ ⟨⟩
    exact ⟨rfl, fun _ => rfl⟩
  | sign here idle mine fair covered made onward =>
    exact h.stay here rfl (Stage.isOut_of_isIdle idle) onward rfl rfl nofun
  | @accept k o t here =>
    have priced := priced k _ here
    exact h.accept here rfl (priced.transaction o t rfl rfl) (priced.offer o rfl).pos (within.pledged k o t here) rfl
  | reject here => exact h.stay here rfl rfl rfl rfl rfl nofun
  | reread here =>
    refine h.stay here rfl rfl rfl rfl rfl ?_
    rintro _ ⟨⟩
    exact ⟨rfl, fun _ => rfl⟩
  | @receive k since o t c _ _ _ here =>
    exact h.finish here rfl ((priced k _ here).transaction o t rfl rfl) rfl (.inr ⟨c, rfl⟩)
  | @lapse k since o t e here =>
    exact h.finish here rfl ((priced k _ here).transaction o t rfl rfl) rfl (.inl rfl)

/-- Every sequence of events keeps the transfers tracked. -/
theorem after (s : Setup) (registry : Registry) (pool : Pool) (now : Nat) (events : List Event)
    (word : registry.funding.balance ≤ word256Max) :
    let start := Funder.start registry pool now
    Tracked (start.after s events) (start.trace s events) := by
  intro start
  have all := Funder.after_induction (s := s) (P := fun f ds => (Locked f ∧ Priced s f ∧ Within f) ∧ Tracked f ds)
    ⟨⟨Locked.start registry pool now, Priced.start registry pool now, Within.start registry pool now word⟩,
      Tracked.start registry pool now⟩
    (fun ⟨⟨lock, priced, within⟩, tracked⟩ m =>
      ⟨⟨lock.move m, priced.move m, within.move lock m⟩, tracked.move priced within m⟩) events
  exact all.2

/-- A transfer that is waited for is waited for with the transaction that was accepted. -/
theorem awaiting_of_isOut (h : Tracked f ds) {t : SignedTransaction} (mem : (k, t) ∈ unreceipted ds)
    (out : f.isOut k) : ∃ o since, f.stage? k = some (.awaiting o t since) := by
  obtain ⟨st, here, -⟩ := h.listed k t mem
  rw [isOut_of_stage here] at out
  cases st with
  | awaiting o u since =>
    have same := List.inj_on_of_nodup_map h.distinct mem (h.out k o u since here) rfl
    cases same
    exact ⟨o, since, here⟩
  | _ => cases out

end Tracked

/-! ## The result -/

/-- **What is committed covers the transfers that may still land exactly if all of them are still waited for.**

Whatever the order of the events and however the waits end, what is committed is what the accepted transfers without a
receipt can cost whose receipt is still waited for. A transfer whose wait ended otherwise is over, and what it can cost
is missing: it may still land, but the next transfer may spend the same balance. The next nonce has gone up by no more
than the number of transfers, as long as no answer counts more transfers than were accepted. -/
theorem unreceipted_covered_iff (s : Setup) (registry : Registry) (pool : Pool) (now : Nat) (events : List Event)
    (word : registry.funding.balance ≤ word256Max) :
    let start := Funder.start registry pool now
    let f := start.after s events
    let ds := start.trace s events
    f.committed = worstCost ((unreceipted ds).filter fun p => f.isOut p.1) ∧
      worstCost (unreceipted ds) = f.committed + worstCost ((unreceipted ds).filter fun p => !f.isOut p.1) ∧
      (∀ p ∈ unreceipted ds, f.isOut p.1 = false → ∃ result, f.stage? p.1 = some (.done result)) ∧
      (worstCost (unreceipted ds) ≤ f.committed ↔
        ∀ k t, .accepted k t ∈ ds → (∀ o c, .received k o c ∉ ds) →
          ∃ o since, f.stage? k = some (.awaiting o t since)) ∧
      (∀ bound, registry.funding.nextNonce ≤ bound → Modest bound ds →
        f.registry.funding.nextNonce ≤ bound + f.transfers.size) := by
  intro start f ds
  have tracked : Tracked f ds := Tracked.after s registry pool now events word
  have parts : worstCost (unreceipted ds) = f.committed + worstCost ((unreceipted ds).filter fun p => !f.isOut p.1) := by
    have perm := List.filter_append_perm (fun p : Nat × SignedTransaction => f.isOut p.1) (unreceipted ds)
    have sums := (perm.map (·.2.maxCost)).sum_eq
    rw [List.map_append, List.sum_append] at sums
    rw [tracked.sum]
    exact sums.symm
  refine ⟨tracked.sum, parts, ?lapsed, ⟨?waited, ?covered⟩, fun bound least modest => ?room⟩
  case lapsed =>
    intro p mem home
    obtain ⟨st, here, out | ended⟩ := tracked.listed p.1 p.2 mem
    · rw [← Tracked.isOut_of_stage here, home] at out
      cases out
    · cases st with
      | done result => exact ⟨result, here⟩
      | _ => cases ended
  case waited =>
    intro covered k t told none
    have mem : (k, t) ∈ unreceipted ds := mem_unreceipted.2 ⟨told, none⟩
    refine tracked.awaiting_of_isOut mem ?_
    by_contra home
    -- what it can cost is missing
    have missing : (k, t) ∈ (unreceipted ds).filter fun p => !f.isOut p.1 :=
      List.mem_filter.2 ⟨mem, by simpa using home⟩
    have cost : 0 < worstCost ((unreceipted ds).filter fun p => !f.isOut p.1) :=
      List.sum_pos_iff_exists_pos_nat.2 ⟨t.maxCost, List.mem_map.2 ⟨(k, t), missing, rfl⟩, tracked.pos (k, t) mem⟩
    omega
  case covered =>
    intro waited
    have none : (unreceipted ds).filter (fun p => !f.isOut p.1) = [] := by
      refine List.filter_eq_nil_iff.2 fun p mem => ?_
      obtain ⟨told, none⟩ := mem_unreceipted.1 (show (p.1, p.2) ∈ unreceipted ds from mem)
      obtain ⟨o, since, here⟩ := waited p.1 p.2 told none
      simp [Tracked.isOut_of_stage here, Stage.isOut]
    rw [parts, none]
    exact Nat.le_refl _
  case room => exact (Roomy.after s registry pool now events least modest).nextNonce_le

/-- A transfer is accepted, and the wait for its receipt fails: then it may still land, and is not covered. -/
theorem unreceipted_covered_iff_unwatched :
    let s : Setup := ⟨⟨1, 1⟩, ⟨0, 0⟩, standardPatience, []⟩
    let registry : Registry :=
      ⟨{ Account.ofKey ⟨1, by decide, by decide⟩ 1 with balance := 1000000000000000000 },
        #[.ofKey ⟨2, by decide, by decide⟩ 1], 0⟩
    let sent : List Event := [.request 0, .begin 0, .quoted 0 (.ok (2, 1)), .sent 0 (.ok ())]
    let events : List Event := sent ++ [.answered 0 (.error .noAccounts)]
    let start := Funder.start registry ⟨1, [0], 0⟩ 0
    registry.funding.balance ≤ word256Max ∧
      ∀ k t, .accepted k t ∈ start.trace s events →
        (start.after s events).committed < worstCost (unreceipted (start.trace s events)) := by
  intro s registry sent events start
  have word : registry.funding.balance ≤ word256Max := by decide
  -- the account is not to be computed
  clear_value registry
  refine ⟨word, fun k t told => ?_⟩
  have iff := (unreceipted_covered_iff s registry ⟨1, [0], 0⟩ 0 events word).2.2.2.1
  by_contra covered
  have sends : .sent k (.ok ()) ∈ events := Funder.mem_of_cause? told rfl
  obtain rfl : k = 0 := by simpa [events, sent] using sends
  have none : ∀ o c, .received 0 o c ∉ start.trace s events := by
    intro o c receipt
    have answered := Funder.mem_of_cause? receipt rfl
    simp [events, sent] at answered
  obtain ⟨o, since, here⟩ := iff.1 (Nat.not_lt.1 covered) 0 t told none
  have now : (start.after s sent).now = 0 := Funder.now_after (f := start) (by simp [sent])
  rw [Funder.after_concat] at here
  refine Funder.not_awaiting_of_answered (fun since => ?_) _ o t since here
  rw [now]
  exact Nat.zero_le _

end Funding

end TxLoad
