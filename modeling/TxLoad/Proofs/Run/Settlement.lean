import Mathlib.Algebra.BigOperators.Group.List.Basic
import TxLoad.Proofs.Lists
import TxLoad.Proofs.Run.NonceOrder

/-!
# What a run costs its workers

A transaction costs its sender something when its receipt comes in, and nothing else does.

- `settlements` lists the settled transactions of a trace with their receipts;
- `Payment` is what a move can do to balances and fees: nothing, or one settlement is paid (`Move.payment`);
- `Balanced` says that balances and fees are what the settlements make of them, and is kept by every move
  (`Balanced.move`);
- `Settled` says that a verdict is given once, and to a transaction that was built for its worker (`Settled.move`);
- `Run.action?_eq_settled_iff`: a transaction is settled when its receipt is delivered in time;
- **balances and fees are exact, and depend on what was settled alone** (`balances_exact`): the order of the settlements
  does not matter.
-/

namespace TxLoad

/-- The balance of a worker. -/
def Registry.balance? (r : Registry) (worker : Nat) : Option Nat := r.workers[worker]?.map (·.balance)

namespace Dispatch

/-! ## Settlements -/

/-- A settled transaction: the worker that sent it, the transaction, and its receipt. -/
structure Settlement where
  worker : Nat
  transaction : SignedTransaction
  receipt : Confirmation
deriving DecidableEq

/-- What a settled transaction takes from its sender. -/
def Settlement.cost (x : Settlement) : Nat := min (x.transaction.value + x.receipt.totalFee) word256Max

/-- A transaction is settled. -/
def Action.settlement? : Action → Option Settlement
  | closed _ p (.settled c) => some ⟨p.worker, p.transaction, c⟩
  | _ => none

/-- The settled transactions of a trace, in the order of their receipts. -/
def settlements (ds : List Action) : List Settlement := ds.filterMap Action.settlement?

/-- What settled transactions take from worker `w`. -/
def spending (w : Nat) (xs : List Settlement) : Nat := ((xs.filter (·.worker = w)).map Settlement.cost).sum

/-- The fees of settled transactions. -/
def fees (xs : List Settlement) : Nat := (xs.map (·.receipt.totalFee)).sum

/-- One more action settles one more transaction, or none. -/
theorem settlements_concat (ds : List Action) (d : Option Action) :
    settlements (ds ++ d.toList) = settlements ds ++ (d.bind Action.settlement?).toList := by
  rw [settlements, List.filterMap_append]
  cases d with
  | none => rfl
  | some d => cases h : d.settlement? <;> simp [settlements, h]

theorem exists_of_mem_settlements {ds : List Action} {x : Settlement} (h : x ∈ settlements ds) :
    ∃ i p c, .closed i p (.settled c) ∈ ds ∧ x = ⟨p.worker, p.transaction, c⟩ := by
  obtain ⟨d, mem, settled⟩ := List.mem_filterMap.1 h
  unfold Action.settlement? at settled
  split at settled <;> cases settled
  exact ⟨_, _, _, mem, rfl⟩

/-- One more settlement costs its own sender something. -/
theorem spending_concat (w : Nat) (xs : List Settlement) (x : Settlement) :
    spending w (xs ++ [x]) = spending w xs + if x.worker = w then x.cost else 0 := by
  rw [spending, List.filter_append, List.map_append, List.sum_append, spending]
  congr 1
  split
  · next mine => simp [mine]
  · next other => simp [other]

theorem fees_concat (xs : List Settlement) (x : Settlement) : fees (xs ++ [x]) = fees xs + x.receipt.totalFee := by
  simp [fees]

/-- **The order of settlements does not matter** to what they take from a worker. -/
theorem spending_of_perm {xs ys : List Settlement} (h : xs.Perm ys) (w : Nat) : spending w xs = spending w ys :=
  ((h.filter _).map _).sum_eq

theorem fees_of_perm {xs ys : List Settlement} (h : xs.Perm ys) : fees xs = fees ys := (h.map _).sum_eq

/-! ## Balances -/

/-- A worker that reserves a nonce keeps its balance. -/
theorem balance?_reserve {registry : Registry} {v cursor : Nat} {account funding : Account}
    (sender : registry.workers[v]? = some account) (w : Nat) :
    (⟨funding, registry.workers.modify v fun _ => account.reserve, cursor⟩ : Registry).balance? w =
      registry.balance? w := by
  rw [Registry.balance?, Registry.balance?, Array.getElem?_modify]
  split
  · next mine => rw [← mine, sender]; rfl
  · rfl

theorem balance?_congr {a b : Registry} (h : a.workers = b.workers) (w : Nat) : a.balance? w = b.balance? w := by
  rw [Registry.balance?, h, Registry.balance?]

theorem balance?_of_spends {registry : Registry} {st : Stage} {loss : Option (Nat × Nat)} {workers : Array Account}
    (spends : Spends registry.workers st loss workers) (funding : Account) (cursor w : Nat) :
    (⟨funding, workers, cursor⟩ : Registry).balance? w = registry.balance? w := by
  cases spends with
  | nothing | refused => rfl
  | unsigned early sender => exact balance?_reserve sender w

theorem balance?_modifyWorker (registry : Registry) {v : Nat} {f : Account → Account} {g : Nat → Nat}
    (changes : ∀ a : Account, (f a).balance = g a.balance) (w : Nat) :
    (registry.modifyWorker v f).balance? w = (registry.balance? w).map fun b => if v = w then g b else b := by
  rw [Registry.balance?, Registry.modifyWorker, Array.getElem?_modify, Registry.balance?]
  split <;> cases registry.workers[w]? <;> simp [changes]

theorem balance?_of_free (registry : Registry) {v : Nat} {f : Account → Account}
    (free : ∀ a : Account, (f a).balance = a.balance) (w : Nat) :
    (registry.modifyWorker v f).balance? w = registry.balance? w := by
  simpa using balance?_modifyWorker registry (v := v) (g := id) free w

/-! ## Payments -/

/-- What a move can do to balances and fees: nothing, or one settlement is paid by its sender. -/
inductive Payment (r r' : Run) : Option Settlement → Prop
  | none (balances : ∀ w, r'.registry.balance? w = r.registry.balance? w)
      (fees : r'.context.stats.feesPaid = r.context.stats.feesPaid) : Payment r r' none
  | paid (x : Settlement)
      (balances : ∀ w, r'.registry.balance? w =
        (r.registry.balance? w).map (· - if x.worker = w then x.cost else 0))
      (fees : r'.context.stats.feesPaid = Wei.plus r.context.stats.feesPaid x.receipt.totalFee) : Payment r r' (some x)

/-- **Every move pays what its action settles**, and nothing else. -/
theorem Move.payment {s : Setup} {r r' : Run} {d : Option Action} (m : Move s r d r') :
    Payment r r' (d.bind Action.settlement?) := by
  cases m with
  | rest | enter | queue | pace | join | conclude | abort | watch | breakOff => exact .none (fun _ => rfl) rfl
  | quote => exact .none (balance?_congr rfl) rfl
  | assemble _ _ sender => exact .none (balance?_reserve sender) rfl
  | fail _ spends => exact .none (balance?_of_spends spends _ _) (by simp [Stats.fail])
  | submit => exact .none (fun _ => rfl) rfl
  | @close i p v _ here =>
    cases v with
    | settled c =>
      refine .paid ⟨p.worker, p.transaction, c⟩ (fun w => ?_) ?_
      · rw [balance?_modifyWorker r.registry (g := (· - p.spent c)) (fun _ => rfl)]
        congr 1
        funext b
        split <;> rfl
      · rw [Pending.stats_count]
        cases success : c.success <;> simp [Stats.settle, Stats.pay, success]
    | lost e => exact .none (balance?_of_free r.registry fun _ => rfl) (by simp [Pending.stats_count, Stats.lose])
    | expired => exact .none (balance?_of_free r.registry fun _ => rfl) (by simp [Pending.stats_count, Stats.expire])

/-- **Balances and fees are what the settlements make of them.** -/
structure Balanced (registry : Registry) (r : Run) (ds : List Action) : Prop where
  balances : ∀ w, r.registry.balance? w = (registry.balance? w).map (· - spending w (settlements ds))
  fees : r.context.stats.feesPaid = min (fees (settlements ds)) word256Max

namespace Balanced

variable {s : Setup} {registry : Registry} {r r' : Run} {ds : List Action} {d : Option Action}

theorem start (s : Setup) (pool : Pool) (registry : Registry) (now : Nat) :
    Balanced registry (Run.start s pool registry now) [] where
  balances w := by simp [Run.start, settlements, spending]
  fees := rfl

/-- **Every move keeps balances and fees exact.** Both stop at a bound, but they only ever move towards it. -/
theorem move (h : Balanced registry r ds) (m : Move s r d r') : Balanced registry r' (ds ++ d.toList) := by
  have payment := m.payment
  generalize settled : d.bind Action.settlement? = paid at payment
  have told := settlements_concat ds d
  rw [settled] at told
  cases payment with
  | none balances fees =>
    rw [Option.toList_none, List.append_nil] at told
    refine ⟨fun w => ?_, ?_⟩
    · rw [balances, told]
      exact h.balances w
    · rw [fees, told]
      exact h.fees
  | paid x balances fees =>
    rw [Option.toList_some] at told
    refine ⟨fun w => ?_, ?_⟩
    · rw [balances, h.balances, told, spending_concat, Option.map_map]
      congr 1
      funext b
      exact Nat.sub_sub ..
    · have before := h.fees
      rw [fees, told, fees_concat, Wei.plus]
      omega

theorem after (s : Setup) (pool : Pool) (registry : Registry) (now : Nat) (events : List Event) :
    Balanced registry ((Run.start s pool registry now).after s events)
      ((Run.start s pool registry now).trace s events) :=
  Run.after_induction (start s pool registry now) (fun h m => h.move m) events

end Balanced

/-! ## One verdict for every transaction -/

/-- Dispatch `i` gets its verdict. -/
def Action.closes (i : Nat) : Action → Bool
  | closed j _ _ => j = i
  | _ => false

/-- The worker and the transaction of a dispatch that has one. -/
def Stage.transaction? : Stage → Option (Nat × SignedTransaction)
  | sending _ w t => some (w, t)
  | submitted p | watching p | closed p _ | broken p => some (p.worker, p.transaction)
  | _ => none

/-- The worker that sent a settled transaction, and the transaction. -/
def Settlement.origin (x : Settlement) : Nat × SignedTransaction := (x.worker, x.transaction)

/-- **A verdict is given once**: to a dispatch that stays closed, and to a transaction that was built for it. -/
structure Settled (r : Run) (ds : List Action) : Prop where
  built : ∀ i st w t, r.jobs[i]? = some st → st.transaction? = some (w, t) → .assembled i w t ∈ ds
  verdicts : ∀ i p v, .closed i p v ∈ ds → r.jobs[i]? = some (.closed p v)
  once : ∀ i, ds.countP (Action.closes i) ≤ 1
  distinct : ((settlements ds).map Settlement.origin).Nodup

namespace Settled

variable {s : Setup} {r r' : Run} {ds : List Action} {d : Option Action} {i : Nat}

theorem start (s : Setup) (pool : Pool) (registry : Registry) (now : Nat) :
    Settled (Run.start s pool registry now) [] where
  built _ _ _ _ here := by simp [Run.start] at here
  verdicts _ _ _ mem := by cases mem
  once _ := Nat.zero_le _
  distinct := List.nodup_nil

/-- An action that is no verdict gives none. -/
theorem quiet (h : Settled r ds) (silent : ∀ x ∈ d, ∀ j, x.closes j = false)
    (built : ∀ i st w t, r'.jobs[i]? = some st → st.transaction? = some (w, t) → .assembled i w t ∈ ds ++ d.toList)
    (stays : ∀ (i : Nat) (p : Pending) (v : Verdict),
      r.jobs[i]? = some (.closed p v) → r'.jobs[i]? = some (.closed p v)) :
    Settled r' (ds ++ d.toList) where
  built := built
  verdicts j p v mem := by
    rcases List.mem_append.1 mem with old | new
    · exact stays j p v (h.verdicts j p v old)
    · have closes := silent _ (Option.mem_toList.1 new) j
      simp [Action.closes] at closes
  once j := by
    have none : d.toList.countP (Action.closes j) = 0 := by
      rw [List.countP_eq_zero]
      intro x mem
      rw [silent x (Option.mem_toList.1 mem) j]
      simp
    rw [List.countP_append, none]
    exact h.once j
  distinct := by
    have none : d.bind Action.settlement? = none := by
      cases d with
      | none => rfl
      | some x =>
        cases x with
        | closed j => have := silent _ rfl j; simp [Action.closes] at this
        | _ => rfl
    rw [settlements_concat, none, Option.toList_none, List.append_nil]
    exact h.distinct

theorem frame (h : Settled r ds) (jobs : r'.jobs = r.jobs) : Settled r' (ds ++ (none : Option Action).toList) := by
  refine h.quiet (by simp) ?_ ?_ <;> rw [jobs]
  · simpa using h.built
  · exact fun _ _ _ => id

/-- An admission gives no verdict. -/
theorem enter (h : Settled r ds) (gate : Gate) (n : Nat) : Settled (r.beginDispatch s gate) (ds ++ [.admitted n]) := by
  refine h.quiet (d := some (.admitted n)) (by rintro x ⟨⟩ _; rfl) ?_ ?_ <;> rw [Run.jobs_beginDispatch]
  · intro j st w t here has
    rw [Array.getElem?_push] at here
    split at here
    · cases here
      cases has
    · exact List.mem_append_left _ (h.built j st w t here has)
  · intro j p v here
    have inside := (Array.getElem?_eq_some_iff.1 here).1
    rw [Array.getElem?_push, if_neg (Nat.ne_of_lt inside)]
    exact here

/-- A dispatch that comes to a stage without a verdict gives none, and goes on with the transaction built for it. -/
theorem reach (h : Settled r ds) {a b : Stage} (here : r.jobs[i]? = some a)
    (jobs : r'.jobs = r.jobs.setIfInBounds i b) (live : ∀ p v, a ≠ .closed p v)
    (silent : ∀ x ∈ d, ∀ j, x.closes j = false)
    (kept : ∀ w t, b.transaction? = some (w, t) → a.transaction? = some (w, t) ∨ d = some (.assembled i w t)) :
    Settled r' (ds ++ d.toList) := by
  refine h.quiet silent ?built ?stays
  case built =>
    intro j st w t there has
    rw [jobs] at there
    by_cases at_i : i = j
    · rw [← at_i, Run.getElem?_reach here] at there
      cases there
      rw [List.mem_append, ← at_i]
      rcases kept w t has with old | new
      · exact .inl (h.built i a w t here old)
      · exact .inr (Option.mem_toList.2 new)
    · rw [Array.getElem?_setIfInBounds_ne at_i] at there
      exact List.mem_append_left _ (h.built j st w t there has)
  case stays =>
    intro j p v closed
    rw [jobs]
    by_cases at_i : i = j
    · rw [← at_i, here] at closed
      exact absurd (Option.some.inj closed) (live p v)
    · rw [Array.getElem?_setIfInBounds_ne at_i]
      exact closed

/-- The transaction of a dispatch that waits for its verdict was not settled yet. -/
theorem fresh (h : Settled r ds) (drawn : (ds.filterMap Action.drawn?).Nodup) {p : Pending}
    (here : r.jobs[i]? = some (.watching p)) : (p.worker, p.transaction) ∉ (settlements ds).map Settlement.origin := by
  intro mem
  obtain ⟨x, settled, same⟩ := List.mem_map.1 mem
  obtain ⟨j, q, c, told, rfl⟩ := exists_of_mem_settlements settled
  have closed := h.verdicts j q _ told
  have theirs : .assembled j q.worker q.transaction ∈ ds := h.built j _ _ _ closed rfl
  have mine : .assembled i p.worker p.transaction ∈ ds := h.built i _ _ _ here rfl
  have same : (q.worker, q.transaction) = (p.worker, p.transaction) := same
  obtain ⟨worker, transaction⟩ := Prod.mk.inj same
  rw [worker, transaction] at theirs
  -- no nonce of a worker is drawn twice, so both are the same dispatch
  cases eq_of_nodup_filterMap drawn mine theirs rfl rfl
  rw [here] at closed
  cases closed

/-- **A verdict is the first of its dispatch**, and settles a transaction that was not settled before. -/
theorem close (h : Settled r ds) (drawn : (ds.filterMap Action.drawn?).Nodup) {p : Pending} {v : Verdict}
    (here : r.jobs[i]? = some (.watching p)) (jobs : r'.jobs = r.jobs.setIfInBounds i (.closed p v)) :
    Settled r' (ds ++ [.closed i p v]) where
  built j st w t there has := by
    rw [jobs] at there
    apply List.mem_append_left
    by_cases at_i : i = j
    · rw [← at_i, Run.getElem?_reach here] at there
      cases there
      rw [← at_i]
      exact h.built i _ w t here has
    · rw [Array.getElem?_setIfInBounds_ne at_i] at there
      exact h.built j st w t there has
  verdicts j q u mem := by
    rw [jobs]
    rcases List.mem_append.1 mem with old | new
    · have closed := h.verdicts j q u old
      have other : i ≠ j := by
        rintro rfl
        rw [here] at closed
        cases closed
      rw [Array.getElem?_setIfInBounds_ne other]
      exact closed
    · cases List.mem_singleton.1 new
      exact Run.getElem?_reach here _
  once j := by
    rw [List.countP_append, List.countP_singleton]
    split
    · next mine =>
      have at_i : i = j := of_decide_eq_true mine
      have none : ds.countP (Action.closes j) = 0 := by
        rw [List.countP_eq_zero]
        intro x mem again
        cases x with
        | closed k q u =>
          have closed := h.verdicts k q u mem
          rw [of_decide_eq_true again, ← at_i, here] at closed
          cases closed
        | _ => cases again
      omega
    · exact h.once j
  distinct := by
    have told := settlements_concat ds (some (.closed i p v))
    rw [Option.toList_some] at told
    rw [told]
    cases v with
    | settled c =>
      rw [List.map_append, List.nodup_append]
      refine ⟨h.distinct, List.pairwise_singleton _ _, ?_⟩
      rintro _ old _ new rfl
      rw [List.mem_singleton.1 new] at old
      exact h.fresh drawn here old
    | lost | expired => simpa [Action.settlement?] using h.distinct

/-- **Every move keeps it so**, as long as transactions carry nonces of their own. -/
theorem move (h : Settled r ds) (drawn : (ds.filterMap Action.drawn?).Nodup) (m : Move s r d r') :
    Settled r' (ds ++ d.toList) := by
  cases m with
  | rest | queue | pace | join | conclude | abort => exact h.frame rfl
  | enter => exact h.enter _ _
  | @quote i endpoint worker _ _ here =>
    exact h.reach (b := .quoting endpoint worker) here rfl nofun (by simp) nofun
  | assemble here early =>
    refine h.reach here rfl (by rintro p v rfl; cases early) ?_ ?_
    · rintro x ⟨⟩ j
      rfl
    · rintro w t ⟨⟩
      exact .inr rfl
  | fail here spends =>
    refine h.reach here rfl (by rintro p v rfl; exact v.standing_ne.1 (Stage.standing_of_spends spends)) ?_ nofun
    rintro x ⟨⟩ j
    rfl
  | submit here =>
    refine h.reach here rfl nofun ?_ fun w t has => .inl has
    rintro x ⟨⟩ j
    rfl
  | watch here | breakOff here => exact h.reach here rfl nofun (by simp) fun w t has => .inl has
  | close here => exact h.close drawn here rfl

/-- Every run gives a verdict once. -/
theorem after (s : Setup) (pool : Pool) (registry : Registry) (now : Nat) (events : List Event) :
    Settled ((Run.start s pool registry now).after s events)
      ((Run.start s pool registry now).trace s events) := by
  have all := Run.after_induction
    (P := fun r ds => Recorded s r ds ∧ Drawn (nonce registry.workers) r ds ∧ Settled r ds)
    ⟨Recorded.start s pool registry now, Drawn.start s pool registry now, start s pool registry now⟩
    (fun ⟨record, drawn, settled⟩ m => ⟨record.move m, drawn.move record m, settled.move drawn.distinct m⟩) events
  exact all.2.2

theorem nodup (h : Settled r ds) : (settlements ds).Nodup :=
  List.Pairwise.of_map Settlement.origin (fun _ _ apart same => apart (congrArg _ same)) h.distinct

end Settled

/-! ## When a transaction is settled -/

namespace Run

variable {s : Setup} {r : Run} {e : Event} {i : Nat} {p : Pending} {v : Verdict} {c : Confirmation}

theorem isTimely_iff : r.isTimely s p ↔ ∀ deadline ∈ p.deadline s.options.patience, r.now ≤ deadline := by
  unfold isTimely
  split
  · next known => simp [known]
  · next unknown => simp [unknown]

/-- A verdict is given to the transaction that is watched. -/
theorem watching_of_closed (told : r.action? s e = some (.closed i p v)) : r.jobs[i]? = some (.watching p) := by
  have m := move_step s r e
  rw [told] at m
  generalize r.step s e = r' at m
  cases m with
  | close here => exact here

/-- A verdict is given by a step of its own dispatch. -/
theorem closed_of_action? (told : r.action? s e = some (.closed i p v)) :
    e.job? = some i ∧ (r.step s e).jobs[i]? = some (.closed p v) := by
  obtain other | ⟨j, a, b, mine, here, there, action⟩ := stages_of_action? told
  · cases other
  · unfold Stage.action? at action
    split at action <;> cases action
    exact ⟨mine, there⟩

/-- **A transaction is settled when its receipt is delivered in time**, and by nothing else. -/
theorem action?_eq_settled_iff : r.action? s e = some (.closed i p (.settled c)) ↔
    e = .answered i (.ok c) ∧ r.jobs[i]? = some (.watching p) ∧
      ∀ deadline ∈ p.deadline s.options.patience, r.now ≤ deadline := by
  constructor
  · intro told
    have here := watching_of_closed told
    obtain ⟨mine, there⟩ := closed_of_action? told
    cases e with
    | answered j answer =>
      cases mine
      simp only [step, answered, here] at there
      split at there
      · next timely =>
        have verdict : (r.jobs.setIfInBounds i (.closed p (.ofAnswer answer)))[i]? =
          some (.closed p (.settled c)) := there
        rw [getElem?_reach here] at verdict
        cases answer with
        | ok c' =>
          obtain ⟨-, same⟩ := Stage.closed.inj (Option.some.inj verdict)
          cases same
          exact ⟨rfl, here, isTimely_iff.1 timely⟩
        | error => cases verdict
      · rw [here] at there
        cases there
    | expired =>
      cases mine
      simp only [step, expired, here] at there
      split at there
      · split at there
        · have verdict : (r.jobs.setIfInBounds i (.closed p .expired))[i]? = some (.closed p (.settled c)) := there
          rw [getElem?_reach here] at verdict
          cases verdict
        · rw [here] at there
          cases there
      · rw [here] at there
        cases there
    | begin | quoted | sent | watch =>
      cases mine
      simp [step, begin, quoted, sent, watch, here] at there
    | resume | refreshed | pass => cases mine
  · rintro ⟨rfl, here, timely⟩
    have closes : r.step s (.answered i (.ok c)) = r.close s i p (.settled c) := by
      simp [step, answered, here, isTimely_iff.2 timely, Verdict.ofAnswer]
    have closed : (r.close s i p (.settled c)).jobs = r.jobs.setIfInBounds i (.closed p (.settled c)) := rfl
    simp only [action?, Event.job?, closes]
    exact actionOf?_eq here closed

end Run

/-! ## The result -/

/-- **Balances and fees are exact, and depend on what was settled alone**, whatever the answers of the endpoints and the
order of the events.

What a worker has left is its balance at the start without what its settled transactions took, and the fees paid are
those of the settled transactions, up to the greatest word. A transaction is settled when its receipt is delivered in
time, whether it succeeded or was reverted, and by nothing else; it was built for its worker, a dispatch has one verdict
at most, and no transaction is settled twice. A step that settles nothing changes no balance and no fees. Therefore two
runs that begin with the same balances and settle the same transactions with the same receipts agree on balances and
fees, in whatever order the receipts come in. -/
theorem balances_exact (s : Setup) (pool : Pool) (registry : Registry) (now : Nat) (events : List Event) :
    let r := (Run.start s pool registry now).after s events
    let ds := (Run.start s pool registry now).trace s events
    (∀ w, r.registry.balance? w = (registry.balance? w).map (· - spending w (settlements ds))) ∧
      r.context.stats.feesPaid = min (fees (settlements ds)) word256Max ∧
      (∀ e i p c, r.action? s e = some (.closed i p (.settled c)) ↔
        e = .answered i (.ok c) ∧ r.jobs[i]? = some (.watching p) ∧
          ∀ deadline ∈ p.deadline s.options.patience, r.now ≤ deadline) ∧
      (∀ i p v, .closed i p v ∈ ds → .assembled i p.worker p.transaction ∈ ds) ∧
      (∀ i, ds.countP (Action.closes i) ≤ 1) ∧
      ((settlements ds).map Settlement.origin).Nodup ∧
      (∀ e, (r.action? s e).bind Action.settlement? = none →
        (∀ w, (r.step s e).registry.balance? w = r.registry.balance? w) ∧
          (r.step s e).context.stats.feesPaid = r.context.stats.feesPaid) ∧
      ∀ s' pool' registry' now' events',
        let r' := (Run.start s' pool' registry' now').after s' events'
        let ds' := (Run.start s' pool' registry' now').trace s' events'
        (∀ w, registry'.balance? w = registry.balance? w) → (∀ x, x ∈ settlements ds' ↔ x ∈ settlements ds) →
          (∀ w, r'.registry.balance? w = r.registry.balance? w) ∧
            r'.context.stats.feesPaid = r.context.stats.feesPaid := by
  intro r ds
  have balanced : Balanced registry r ds := Balanced.after s pool registry now events
  have settled : Settled r ds := Settled.after s pool registry now events
  refine ⟨balanced.balances, balanced.fees, fun e i p c => Run.action?_eq_settled_iff, ?built, settled.once,
    settled.distinct, ?silent, ?order⟩
  case built =>
    intro i p v told
    exact settled.built i _ _ _ (settled.verdicts i p v told) rfl
  case silent =>
    intro e silent
    have payment := (Run.move_step s r e).payment
    rw [silent] at payment
    cases payment with
    | none balances fees => exact ⟨balances, fees⟩
  case order =>
    intro s' pool' registry' now' events' r' ds' same_start same_settlements
    have balanced' : Balanced registry' r' ds' := Balanced.after s' pool' registry' now' events'
    have settled' : Settled r' ds' := Settled.after s' pool' registry' now' events'
    have perm : (settlements ds').Perm (settlements ds) :=
      (List.perm_ext_iff_of_nodup settled'.nodup settled.nodup).2 same_settlements
    refine ⟨fun w => ?_, ?_⟩
    · rw [balanced'.balances, balanced.balances, same_start, spending_of_perm perm]
    · rw [balanced'.fees, balanced.fees, fees_of_perm perm]

end Dispatch

end TxLoad
