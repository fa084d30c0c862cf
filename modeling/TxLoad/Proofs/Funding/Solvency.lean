import TxLoad.Proofs.Funding.Numbering

/-!
# The funding account can pay what it has sent

A transfer that is out has the most that it can cost committed until it is settled. The check of the balance leaves out
what is committed, and nothing is sent between a check and the commitment that belongs to it.

- `Funder.outstanding` is what the transfers that are out can cost together;
- `Solvent` says that exactly this is committed, and covered by the balance; every move keeps it (`Solvent.move`), as
  long as no receipt is dearer than its quote;
- **everything that is out is covered, and so is every debit** (`commitments_covered`).
-/

namespace TxLoad.Funding

/-! ## What is out -/

/-- The most that a transfer that is out can cost. -/
def Stage.owed (s : Setup) : Stage → Nat
  | awaiting o _ _ => s.maxCost o.quote
  | _ => 0

theorem Stage.owed_of_isIdle (s : Setup) {st : Stage} (h : st.isIdle) : st.owed s = 0 := by
  cases st <;> first | rfl | cases h

/-- What the transfers that are out can cost together. -/
def Funder.outstanding (s : Setup) (f : Funder) : Nat := (f.transfers.toList.map (·.stage.owed s)).sum

theorem Funder.outstanding_reach {s : Setup} {f f' : Funder} {k : Nat} {a b : Stage} (here : f.stage? k = some a)
    (reached : f'.transfers = (f.reach k b).transfers) :
    f'.outstanding s + a.owed s = f.outstanding s + b.owed s := by
  exact f.sumOver_reach (·.owed s) here reached

theorem Funder.outstanding_request {s : Setup} {f f' : Funder} {worker : Nat}
    (requested : f'.transfers = f.transfers.push ⟨worker, .requested⟩) : f'.outstanding s = f.outstanding s := by
  unfold outstanding
  rw [requested, Array.toList_push, List.map_append, List.sum_append]
  rfl

theorem Funder.outstanding_of_idle {s : Setup} {f : Funder} (idle : ∀ k st, f.stage? k = some st → st.isIdle) :
    f.outstanding s = 0 :=
  f.sumOver_eq_zero fun k st there => Stage.owed_of_isIdle s (idle k st there)

/-! ## What a receipt costs -/

/-- What an action takes from the funding account. -/
def Setup.cost (s : Setup) : Action → Nat
  | .received _ _ c => s.spent c
  | _ => 0

/-- The receipt is not dearer than its quote allows for a transfer. -/
def Action.IsFair : Action → Prop
  | .received _ o c => c.totalFee ≤ o.quote.feeCap * Payload.transferGas
  | _ => True

/-- A receipt that is not dearer than its quote costs no more than was checked. -/
theorem Setup.spent_le (s : Setup) {q : Fee.Quote} {c : Confirmation}
    (fair : c.totalFee ≤ q.feeCap * Payload.transferGas) : s.spent c ≤ s.maxCost q := by
  have word : c.totalFee ≤ word256Max := Nat.min_le_right ..
  unfold spent maxCost Payload.maxCost Payload.transfer Wei.times Wei.plus
  dsimp only
  split <;> omega

/-! ## Solvency -/

/-- **The funding account is solvent**: exactly what is out is committed, the balance covers it, and it covers what is
being sent besides. -/
structure Solvent (s : Setup) (f : Funder) : Prop where
  fair : ∀ k st o, f.stage? k = some st → st.offer? = some o → o.required = s.maxCost o.quote
  sum : f.committed = f.outstanding s
  covered : f.committed ≤ f.registry.funding.balance
  pledged : ∀ k o t, f.stage? k = some (.sending o t) → f.committed + o.required ≤ f.registry.funding.balance
  word : f.registry.funding.balance ≤ word256Max

namespace Solvent

variable {s : Setup} {f f' : Funder} {k : Nat} {a b : Stage} {d : Option Action}

/-- While no transfer has an offer and nothing is committed, the account is solvent. -/
theorem of_quiet (quiet : ∀ k st, f.stage? k = some st → st.offer? = none) (settled : f.committed = 0)
    (word : f.registry.funding.balance ≤ word256Max) : Solvent s f where
  fair k st o there offered := by cases (quiet k st there).symm.trans offered
  sum := by
    rw [settled]
    refine (f.sumOver_eq_zero fun k st there => ?_).symm
    cases st with
    | awaiting => cases quiet k _ there
    | _ => rfl
  covered := by
    rw [settled]
    exact Nat.zero_le _
  pledged k o t there := by cases quiet k _ there
  word := word

theorem start (s : Setup) (registry : Registry) (pool : Pool) (now : Nat)
    (word : registry.funding.balance ≤ word256Max) : Solvent s (Funder.start registry pool now) :=
  of_quiet (fun k st there => by simp [Funder.start, Funder.stage?] at there) rfl word

/-- A transfer that comes to a stage keeps the account solvent, if what it owes is what is committed more or less, and
the balance still covers it and whatever is being sent. -/
theorem reach (h : Solvent s f) (here : f.stage? k = some a) (reached : f'.transfers = (f.reach k b).transfers)
    (fair : ∀ o, b.offer? = some o → a.offer? = some o ∨ o.required = s.maxCost o.quote)
    (sum : f'.committed + a.owed s = f.committed + b.owed s)
    (covered : f'.committed ≤ f'.registry.funding.balance)
    (mine : ∀ o t, b = .sending o t → f'.committed + o.required ≤ f'.registry.funding.balance)
    (others : ∀ j o t, k ≠ j → f.stage? j = some (.sending o t) →
      f'.committed + o.required ≤ f'.registry.funding.balance)
    (word : f'.registry.funding.balance ≤ f.registry.funding.balance) : Solvent s f' where
  fair j st o there offered := by
    rcases Funder.mine_or_old here reached there with ⟨-, rfl⟩ | ⟨-, there⟩
    · rcases fair o offered with old | new
      · exact h.fair k a o here old
      · exact new
    · exact h.fair j st o there offered
  sum := by
    have moved := Funder.outstanding_reach (s := s) here reached
    have := h.sum
    omega
  covered := covered
  pledged j o t there := by
    rcases Funder.mine_or_old here reached there with ⟨-, sending⟩ | ⟨other, there⟩
    · exact mine o t sending.symm
    · exact others j o t other there
  word := Nat.le_trans word h.word

/-- A transfer that neither goes out nor comes back leaves the amounts as they are. -/
theorem stay (h : Solvent s f) (here : f.stage? k = some a) (reached : f'.transfers = (f.reach k b).transfers)
    (fair : ∀ o, b.offer? = some o → a.offer? = some o ∨ o.required = s.maxCost o.quote)
    (owes : b.owed s = a.owed s) (committed : f'.committed = f.committed)
    (balance : f'.registry.funding.balance = f.registry.funding.balance)
    (mine : ∀ o t, b = .sending o t → f.committed + o.required ≤ f.registry.funding.balance) : Solvent s f' := by
  refine h.reach here reached fair ?_ ?_ ?_ ?_ (Nat.le_of_eq balance)
  · rw [committed, owes]
  · rw [committed, balance]
    exact h.covered
  · rw [committed, balance]
    exact mine
  · rw [committed, balance]
    exact fun j o t _ there => h.pledged j o t there

/-- What a transfer that is out can cost is committed. -/
theorem required_le (h : Solvent s f) {o : Offer} {t : SignedTransaction} {since : Nat}
    (here : f.stage? k = some (.awaiting o t since)) : o.required ≤ f.committed := by
  have owes : Stage.owed s (.awaiting o t since) = o.required := (h.fair k _ o here rfl).symm
  have moved : (f.reach k .requested).outstanding s + Stage.owed s (.awaiting o t since) = f.outstanding s + 0 :=
    Funder.outstanding_reach here rfl
  have := h.sum
  omega

/-- A transfer that comes back frees what it had committed, and may cost as much. -/
theorem settle (h : Solvent s f) {o : Offer} {t : SignedTransaction} {since : Nat}
    {result : Except Failure Confirmation} (here : f.stage? k = some (.awaiting o t since))
    (reached : f'.transfers = (f.reach k (.done result)).transfers)
    (committed : f'.committed = Wei.minus f.committed o.required) (cost : Nat) (cheap : cost ≤ o.required)
    (balance : f'.registry.funding.balance = Wei.minus f.registry.funding.balance cost) : Solvent s f' := by
  have owes : Stage.owed s (.awaiting o t since) = o.required := (h.fair k _ o here rfl).symm
  have free : Stage.owed s (.done result) = 0 := rfl
  have within := h.required_le here
  have covered := h.covered
  unfold Wei.minus at committed balance
  refine h.reach here reached nofun ?sum ?covered nofun ?others ?word
  case sum => omega
  case covered => omega
  case others =>
    intro j o' t' _ there
    have := h.pledged j o' t' there
    omega
  case word => omega

/-- **Every move keeps the account solvent**, as long as receipts are fair. -/
theorem move (h : Solvent s f) (lock : Locked f) (fees : ∀ x, d = some x → x.IsFair) (m : Move s f d f') :
    Solvent s f' := by
  cases m with
  | rest => exact ⟨h.fair, h.sum, h.covered, h.pledged, h.word⟩
  | request worker =>
    refine ⟨fun j st o here offered => ?_, ?_, h.covered, fun j o t here => ?_, h.word⟩
    · rcases @Funder.stage?_request f _ worker rfl j st here with old | rfl
      · exact h.fair j st o old offered
      · cases offered
    · rw [Funder.outstanding_request rfl]
      exact h.sum
    · rcases @Funder.stage?_request f _ worker rfl j _ here with old | new
      · exact h.pledged j o t old
      · cases new
  | wait here idle waits fair =>
    have owes := (Stage.owed_of_isIdle s waits).trans (Stage.owed_of_isIdle s idle).symm
    refine h.stay here rfl (fun o offered => .inr (fair o offered)) owes rfl rfl ?_
    rintro o t rfl
    cases waits
  | refuse here idle | unsigned here idle =>
    exact h.stay here rfl nofun (Stage.owed_of_isIdle s idle).symm rfl rfl nofun
  | @sign k a o t log here idle mine fair covered =>
    refine h.stay here rfl ?_ (Stage.owed_of_isIdle s idle).symm rfl rfl ?_
    · rintro _ ⟨⟩
      exact fair
    · rintro _ _ ⟨⟩
      have := h.covered
      unfold Funder.available Wei.minus at covered
      omega
  | @accept k o t here =>
    have pledged := h.pledged k o t here
    have word := h.word
    have exactly : Wei.plus f.committed o.required = f.committed + o.required := Nat.min_eq_left (by omega)
    refine h.reach here rfl ?_ ?_ ?_ nofun ?_ (Nat.le_refl _)
    · rintro _ ⟨⟩
      exact .inl rfl
    · show Wei.plus f.committed o.required + 0 = f.committed + s.maxCost o.quote
      rw [exactly, h.fair k _ o here rfl]
      rfl
    · show Wei.plus f.committed o.required ≤ f.registry.funding.balance
      rw [exactly]
      exact pledged
    · intro j o' t' other there
      have quiet := lock.others here rfl other there
      cases quiet
  | reject here =>
    refine h.stay here rfl ?_ rfl rfl rfl nofun
    rintro _ ⟨⟩
    exact .inl rfl
  | reread here => exact h.stay here rfl nofun rfl rfl rfl nofun
  | @receive k since o t c _ _ _ here =>
    have required : o.required = s.maxCost o.quote := h.fair k _ o here rfl
    refine h.settle here rfl rfl (s.spent c) ?_ rfl
    rw [required]
    exact s.spent_le (fees _ rfl)
  | lapse here => exact h.settle here rfl rfl 0 (Nat.zero_le _) rfl

/-- **Every debit is covered**: a move takes from the balance exactly what its action costs. -/
theorem balance_move (h : Solvent s f) (fees : ∀ x, d = some x → x.IsFair) (m : Move s f d f') :
    f'.registry.funding.balance + (d.map s.cost).getD 0 = f.registry.funding.balance := by
  cases m with
  | @receive k since o t c _ _ _ here =>
    have required : o.required = s.maxCost o.quote := h.fair k _ o here rfl
    have cheap : s.spent c ≤ s.maxCost o.quote := s.spent_le (fees _ rfl)
    have within := h.required_le here
    have := h.covered
    show f.registry.funding.balance - s.spent c + s.spent c = f.registry.funding.balance
    omega
  | _ => rfl

/-- Every sequence of events keeps the account solvent, as long as receipts are fair. -/
theorem after (s : Setup) (registry : Registry) (pool : Pool) (now : Nat) (events : List Event)
    (word : registry.funding.balance ≤ word256Max)
    (fees : ∀ x ∈ (Funder.start registry pool now).trace s events, x.IsFair) :
    Solvent s ((Funder.start registry pool now).after s events) := by
  have both := Funder.after_induction (P := fun f ds => Locked f ∧ ((∀ x ∈ ds, x.IsFair) → Solvent s f))
    ⟨Locked.start registry pool now, fun _ => start s registry pool now word⟩
    (fun ⟨lock, solvent⟩ m => ⟨lock.move m, fun fees => by
      refine (solvent fun x old => fees x (List.mem_append_left _ old)).move lock (fun x new => ?_) m
      exact fees x (List.mem_append_right _ (Option.mem_toList.2 new))⟩) events
  exact both.2 fees

end Solvent

/-! ## The result -/

/-- **Everything that is out is covered, and so is every debit**, whatever the order of the events and however the
transfers end, as long as no receipt is dearer than the fee cap of its own quote allows for a transfer.

What is committed is the sum, in natural numbers, of the most that the transfers that are out can cost: no addition
and no subtraction was cut off. The balance covers it, and every event takes from the balance exactly what its action
costs. When no transfer is under way, nothing is committed. The next nonce has gone up by no more than the number of
transfers, as long as no answer counts more transfers than were accepted. -/
theorem commitments_covered (s : Setup) (registry : Registry) (pool : Pool) (now : Nat) (events : List Event)
    (word : registry.funding.balance ≤ word256Max)
    (fees : ∀ k o c, .received k o c ∈ (Funder.start registry pool now).trace s events →
      c.totalFee ≤ o.quote.feeCap * Payload.transferGas) :
    let start := Funder.start registry pool now
    let f := start.after s events
    f.committed = f.outstanding s ∧
      f.committed ≤ f.registry.funding.balance ∧
      (∀ past e future, events = past ++ e :: future →
        let f := start.after s past
        (f.step s e).registry.funding.balance + ((f.action? s e).map s.cost).getD 0 = f.registry.funding.balance) ∧
      ((∀ k st, f.stage? k = some st → st.isDone) → f.committed = 0) ∧
      (∀ bound, registry.funding.nextNonce ≤ bound → Modest bound (start.trace s events) →
        f.registry.funding.nextNonce ≤ bound + f.transfers.size) := by
  intro start f
  have fair : ∀ x ∈ start.trace s events, x.IsFair := by
    intro x told
    cases x with
    | received k o c => exact fees k o c told
    | _ => trivial
  have solvent : Solvent s f := Solvent.after s registry pool now events word fair
  refine ⟨solvent.sum, solvent.covered, ?debits, ?ended, fun bound least modest => ?room⟩
  case debits =>
    rintro past e future rfl
    rw [Funder.trace_append] at fair
    have before : Solvent s (start.after s past) :=
      Solvent.after s registry pool now past word fun x old => fair x (List.mem_append_left _ old)
    refine before.balance_move (fun x new => fair x ?_) (Funder.move_step s _ e)
    rw [Funder.trace]
    exact List.mem_append_right _ (List.mem_append_left _ (Option.mem_toList.2 new))
  case ended =>
    intro ended
    rw [solvent.sum]
    refine Funder.outstanding_of_idle fun k st there => ?_
    cases st with
    | done => rfl
    | _ => cases ended k _ there
  case room => exact (Roomy.after s registry pool now events least modest).nextNonce_le

/-- The events of one transfer up to its receipt. -/
def Event.single (c : Confirmation) : List Event :=
  [.request 0, .begin 0, .quoted 0 (.ok (2, 1)), .sent 0 (.ok ()), .answered 0 (.ok c)]

/-- The receipt of one transfer is fair if it is not dearer than the least fee cap there is. -/
theorem fair_of_single {s : Setup} (asks : s.overrides.quote? = none) (registry : Registry) {c : Confirmation}
    (cheap : c.totalFee ≤ Fee.floor * Payload.transferGas) {k : Nat} {o : Offer} {c' : Confirmation}
    (told : .received k o c' ∈ (Funder.start registry ⟨1, [0], 0⟩ 0).trace s (Event.single c)) :
    c'.totalFee ≤ o.quote.feeCap * Payload.transferGas := by
  let start := Funder.start registry ⟨1, [0], 0⟩ 0
  have split : Event.single c =
      [.request 0, .begin 0, .quoted 0 (.ok (2, 1)), .sent 0 (.ok ())] ++ [.answered 0 (.ok c)] := rfl
  rw [split, Funder.trace_append] at told
  rcases List.mem_append.1 told with old | new
  · have early := Funder.mem_of_cause? old rfl
    simp at early
  · rw [Funder.trace, Funder.trace, List.append_nil, Option.mem_toList] at new
    cases Funder.eq_of_cause? new rfl
    obtain ⟨t, since, awaiting⟩ := Funder.awaiting_of_received new
    let f : Funder := ⟨0, registry, ⟨1, [0], 0⟩, 0, none, [], #[⟨0, .quoting 0⟩], #[]⟩
    have asked : (start.step s (.request 0)).step s (.begin 0) = f := by
      simp [f, start, Funder.start, Funder.step, Funder.begin, Funder.stage?, Funder.reach, Pool.select,
        Selection.pick, asks]
    have entered : start.after s [.request 0, .begin 0, .quoted 0 (.ok (2, 1)), .sent 0 (.ok ())] =
        (f.enter s 0 0 ⟨2, 1⟩).sent 0 (.ok ()) := by
      simp only [Funder.after, List.foldl_cons, List.foldl_nil, asked]
      rfl
    rw [entered] at awaiting
    unfold Funder.sent at awaiting
    split at awaiting
    · next o' t' there =>
      cases (Funder.stage?_reach_self there _).symm.trans awaiting
      rcases Funder.stage?_enter there rfl rfl with ended | ⟨o', t', sending, quote⟩
      · cases ended
      · cases sending
        have least : Fee.floor ≤ o.quote.feeCap := by
          rw [quote]
          exact Nat.le_max_right ..
        exact Nat.le_trans cheap (Nat.mul_le_mul_right _ least)
    · rcases Funder.stage?_enter awaiting rfl rfl with ended | ⟨o', t', sending, -⟩
      · cases ended
      · cases sending

/-- One transfer to one worker, whose receipt costs one gwei for each unit of gas. -/
theorem commitments_covered_single :
    let s : Setup := ⟨⟨1, 1⟩, ⟨0, 0⟩, standardPatience, []⟩
    let registry : Registry :=
      ⟨{ Account.ofKey ⟨1, by decide, by decide⟩ 1 with balance := 1000000000000000000 },
        #[.ofKey ⟨2, by decide, by decide⟩ 1], 0⟩
    let c : Confirmation := ⟨1, true, 21000, some Wei.perGwei, none, none⟩
    registry.funding.balance ≤ word256Max ∧
      (∀ k o c', .received k o c' ∈ (Funder.start registry ⟨1, [0], 0⟩ 0).trace s (Event.single c) →
        c'.totalFee ≤ o.quote.feeCap * Payload.transferGas) ∧
      ((Funder.start registry ⟨1, [0], 0⟩ 0).after s (Event.single c)).committed ≤
        ((Funder.start registry ⟨1, [0], 0⟩ 0).after s (Event.single c)).registry.funding.balance := by
  intro s registry c
  have word : registry.funding.balance ≤ word256Max := by decide
  have cheap : c.totalFee ≤ Fee.floor * Payload.transferGas := by decide
  -- the account is not to be computed
  clear_value registry
  have fees := fun k o c' => @fair_of_single s rfl registry c cheap k o c'
  obtain ⟨-, covered, -⟩ := commitments_covered s registry ⟨1, [0], 0⟩ 0 (Event.single c) word fees
  exact ⟨word, fees, covered⟩

end TxLoad.Funding
