import TxLoad.Proofs.Funding.Numbering

/-!
# Accepted transfers have contiguous nonces

A refused submission leaves a nonce behind that nobody used; the nonce is then read again before the lock goes on, and
so the next transfer takes it. A signature that fails leaves one behind too, and that is only noticed at the next
refusal.

- `gaps` counts the nonces that were left behind since the last reading;
- `Honest` is what is expected of the endpoint: it always answers, and with the number of accepted transfers; then only
  signatures lose nonces (`lost_eq_gaps`);
- **accepted transfers carry contiguous nonces, in order, each once** (`accepted_contiguous`).
-/

namespace TxLoad.Funding

/-! ## Gaps -/

/-- The nonce is read again. -/
def Action.isReread : Action → Bool
  | reread _ _ => true
  | _ => false

/-- The nonces that were left behind since the nonce was last read. -/
def gaps (ds : List Action) : Nat := (ds.reverse.takeWhile (!·.isReread)).countP Action.isUnsigned

/-- Where every transaction could be signed, there are no gaps. -/
theorem gaps_eq_zero {ds : List Action} (signed : ∀ d ∈ ds, d.isUnsigned = false) : gaps ds = 0 := by
  rw [gaps, List.countP_eq_zero]
  intro d mem
  have inside := (List.takeWhile_sublist _).subset mem
  rw [signed d (List.mem_reverse.1 inside)]
  exact Bool.false_ne_true

/-! ## An honest endpoint -/

/-- The endpoint answers with the number of accepted transfers, beyond the first nonce. -/
def Honest (first : Nat) (ds : List Action) : Prop :=
  ∀ before k answer later, ds = before ++ .reread k answer :: later → answer = .ok (first + accepted before)

namespace Honest

variable {first : Nat} {ds : List Action}

theorem before {later : List Action} (h : Honest first (ds ++ later)) : Honest first ds := by
  intro before k answer later' split
  refine h before k answer (later' ++ later) ?_
  rw [split, List.append_assoc, List.cons_append]

theorem truthful (h : Honest first ds) : Truthful first ds := by
  intro before k n later split
  exact Except.ok.inj (h before k (.ok n) later split)

/-- At an honest endpoint every reading succeeds. -/
theorem answers (h : Honest first ds) {d : Action} (told : d ∈ ds) :
    d.isAnswer = d.isReread ∧ d.isLoss = d.isUnsigned := by
  cases d with
  | reread k answer =>
    obtain ⟨before, later, split⟩ := List.append_of_mem told
    rw [h before k answer later split]
    exact ⟨rfl, rfl⟩
  | _ => exact ⟨rfl, rfl⟩

/-- At an honest endpoint only signatures lose nonces. -/
theorem lost_eq_gaps (h : Honest first ds) : lost ds = gaps ds := by
  have same : ds.reverse.takeWhile (!·.isAnswer) = ds.reverse.takeWhile (!·.isReread) := by
    refine takeWhile_congr fun d mem => ?_
    rw [(h.answers (List.mem_reverse.1 mem)).1]
  rw [lost, gaps, same]
  refine List.countP_congr fun d mem => ?_
  have inside := (List.takeWhile_sublist _).subset mem
  rw [(h.answers (List.mem_reverse.1 inside)).2]

end Honest

/-! ## The result -/

/-- **Accepted transfers carry contiguous nonces, in the order of acceptance, each once**, whatever the order of the
events and whichever submissions are refused, as long as the endpoint answers a reading of the nonce with the number of
transfers that it has accepted.

An accepted transfer carries the first nonce and one more for every transfer before it; whenever the lock is free, the
next nonce is the one after all of them. A nonce is left behind only by a signature that fails: `gaps` counts those
since the last reading, and is zero as long as no signature fails. The next nonce has gone up by no more than the number
of transfers, so it stays a word if there is room for as many. -/
theorem accepted_contiguous (s : Setup) (registry : Registry) (pool : Pool) (now : Nat) (events : List Event)
    (honest : Honest registry.funding.nextNonce ((Funder.start registry pool now).trace s events)) :
    let f := (Funder.start registry pool now).after s events
    let ds := (Funder.start registry pool now).trace s events
    let first := registry.funding.nextNonce
    (∀ before k t later, ds = before ++ .accepted k t :: later → t.nonce = first + accepted before + gaps before) ∧
      (f.holder = none → f.registry.funding.nextNonce = first + accepted ds + gaps ds) ∧
      (∀ k e, .unsigned k e ∈ ds → e = Transaction.unsignable) ∧
      ((∀ k, .unsigned k Transaction.unsignable ∉ ds) →
        (ds.filterMap Action.accepted?).map (·.nonce) = List.range' first (accepted ds) ∧
          (f.holder = none → f.registry.funding.nextNonce = first + accepted ds)) ∧
      f.registry.funding.nextNonce ≤ first + f.transfers.size := by
  intro f ds first
  have both : Locked f ∧ Numbered first f ds := Numbered.after s registry pool now events honest.truthful
  obtain ⟨lock, numbered⟩ := both
  have same : lost ds = gaps ds := honest.lost_eq_gaps
  have free : f.holder = none → f.registry.funding.nextNonce = first + accepted ds + gaps ds := by
    intro free
    rw [numbered.free (lock.quiet free), same]
  have room : Roomy first f ds := Roomy.after s registry pool now events le_rfl honest.truthful.modest
  refine ⟨fun before k t later split => ?_, free, numbered.told.unsigned, fun signs => ?_, room.nextNonce_le⟩
  · have early : Honest first before := by
      have all : Honest first (before ++ .accepted k t :: later) := split ▸ honest
      exact all.before
    rw [numbered.told.order before k t later split, early.lost_eq_gaps]
  have signed : ∀ d ∈ ds, d.isUnsigned = false := by
    intro d told
    cases d with
    | unsigned k e =>
      cases numbered.told.unsigned k e told
      exact absurd told (signs k)
    | _ => rfl
  refine ⟨numbered.told.range fun d told => ?_, fun unlocked => ?_⟩
  · rw [(honest.answers told).2]
    exact signed d told
  · rw [free unlocked, gaps_eq_zero signed, Nat.add_zero]

/-- A transfer is refused, the nonce is read again, and another transfer is accepted. -/
theorem accepted_contiguous_refused :
    let s : Setup := ⟨⟨1, 1⟩, ⟨0, 0⟩, standardPatience, []⟩
    let registry : Registry :=
      ⟨{ Account.ofKey ⟨1, by decide, by decide⟩ 1 with balance := 1000000000000000000 },
        #[.ofKey ⟨2, by decide, by decide⟩ 1], 0⟩
    let refused : List Event := [.request 0, .begin 0, .quoted 0 (.ok (2, 1)), .sent 0 (.error .noAccounts)]
    let events : List Event :=
      refused ++ [.resynced 0 (.ok 0), .request 0, .begin 1, .quoted 1 (.ok (2, 1)), .sent 1 (.ok ())]
    let ds := (Funder.start registry ⟨1, [0], 0⟩ 0).trace s events
    Honest registry.funding.nextNonce ds ∧
      ∀ before k t later, ds = before ++ .accepted k t :: later →
        t.nonce = registry.funding.nextNonce + accepted before + gaps before := by
  intro s registry refused events ds
  have first : registry.funding.nextNonce = 0 := rfl
  -- the account is not to be computed
  clear_value registry
  have honest : Honest registry.funding.nextNonce ds := by
    intro before k answer later split
    obtain ⟨past, e, future, all, rfl, done⟩ := Funder.split_trace split
    rw [Funder.eq_of_cause? done rfl] at all
    -- only one of the events reads the nonce again
    simp only [events, refused, List.cons_append, List.nil_append, List.cons_eq_append_iff, List.cons.injEq,
      Event.resynced.injEq, reduceCtorEq, List.nil_eq, List.append_eq_nil_iff, exists_const, false_and, and_false,
      or_self, or_false, false_or] at all
    obtain ⟨-, rfl, -, rfl, -, rfl, -, rfl, rfl, ⟨rfl, rfl⟩, -⟩ := all
    rw [first, accepted_eq_zero (by simp)]
  exact ⟨honest, (accepted_contiguous s registry ⟨1, [0], 0⟩ 0 events honest).1⟩

end TxLoad.Funding
