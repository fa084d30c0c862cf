import TxLoad.Proofs.Funding.Move
import TxLoad.Proofs.Lists
import Mathlib.Data.List.Induction

/-!
# The nonces of accepted transfers

A nonce is used up when a transaction is signed. It is lost if the signature fails, or if the submission is refused and
the nonce cannot be read again. When it can be read again, the endpoint's answer counts from then on; lost nonces that
lie before an accepted transfer are not made good by that.

- `accepted` counts what was accepted, `lost` the nonces that were lost since the last answer;
- `Truthful` is what is expected of the endpoint: where it answers, it answers with the number of accepted transfers;
- `Numbered` says that every accepted transfer carries the first nonce and one more for every accepted transfer and
  every lost nonce before it; every move keeps it (`Numbered.move`);
- `Roomy` says that the next nonce has gone up by no more than the number of transfers, as long as the endpoint counts
  no transfer that it has not accepted (`Modest`); so it stays a word if there is room for as many transfers;
- **the next nonce stays above all accepted ones exactly if no answer comes after a transfer that was accepted behind a
  lost nonce** (`next_above_accepted_iff`).
-/

namespace TxLoad.Funding

/-! ## Accepted and lost nonces -/

namespace Action

/-- The transaction that is accepted. -/
def accepted? : Action → Option SignedTransaction
  | accepted _ t => some t
  | _ => none

/-- A nonce is left behind by a signature that fails. -/
def isUnsigned : Action → Bool
  | unsigned _ _ => true
  | _ => false

/-- A nonce is lost: no signature, or no answer after a refusal. -/
def isLoss : Action → Bool
  | unsigned _ _ | reread _ (.error _) => true
  | _ => false

/-- The nonce is read again with success. -/
def isAnswer : Action → Bool
  | reread _ (.ok _) => true
  | _ => false

theorem eq_of_isAnswer {d : Action} (h : d.isAnswer) : ∃ k n, d = .reread k (.ok n) := by
  cases d with
  | reread k answer =>
    cases answer with
    | ok n => exact ⟨k, n, rfl⟩
    | error e => cases h
  | _ => cases h

/-- An action that accepts a transaction is its acceptance. -/
theorem eq_of_accepted? {d : Action} {t : SignedTransaction} (h : d.accepted? = some t) : ∃ k, d = .accepted k t := by
  cases d with
  | accepted k t' =>
    cases h
    exact ⟨k, rfl⟩
  | _ => cases h

end Action

/-- The number of accepted transfers. -/
def accepted (ds : List Action) : Nat := ds.countP fun d => d.accepted?.isSome

/-- The nonces that were lost since the nonce was last read with success. -/
def lost (ds : List Action) : Nat := (ds.reverse.takeWhile (!·.isAnswer)).countP Action.isLoss

/-- Where no submission was answered with success, nothing is accepted. -/
theorem accepted_eq_zero {s : Setup} {f : Funder} {events : List Event} (none : ∀ k, .sent k (.ok ()) ∉ events) :
    accepted (f.trace s events) = 0 := by
  rw [accepted, List.countP_eq_zero]
  intro d told
  cases d with
  | accepted k t => exact absurd (Funder.mem_of_cause? told rfl) (none k)
  | _ => exact Bool.false_ne_true

theorem accepted_append (ds ds' : List Action) : accepted (ds ++ ds') = accepted ds + accepted ds' :=
  List.countP_append

theorem accepted_concat (ds : List Action) (d : Action) :
    accepted (ds ++ [d]) = accepted ds + d.accepted?.isSome.toNat := by
  rw [accepted_append, accepted, accepted, List.countP_singleton]
  cases d.accepted? <;> rfl

/-- An answer forgets what was lost; what comes after it is counted if it is a loss. -/
theorem lost_concat (ds : List Action) (d : Action) :
    lost (ds ++ [d]) = if d.isAnswer then 0 else lost ds + d.isLoss.toNat := by
  rw [lost, List.reverse_concat, List.takeWhile_cons]
  cases answer : d.isAnswer with
  | true => simp
  | false => cases loss : d.isLoss <;> simp [loss, lost]

/-- Until the next answer, nothing is forgotten. -/
theorem lost_le_append {ds ds' : List Action} (silent : ∀ d ∈ ds', d.isAnswer = false) : lost ds ≤ lost (ds ++ ds') := by
  induction ds' using List.reverseRecOn with
  | nil => simp
  | append_singleton ds' d ih =>
    have before : ∀ d ∈ ds', d.isAnswer = false := fun d mem => silent d (List.mem_append_left _ mem)
    have last : d.isAnswer = false := silent d (List.mem_append_right _ List.mem_cons_self)
    rw [← List.append_assoc, lost_concat, last]
    exact Nat.le_trans (ih before) (Nat.le_add_right _ _)

/-- Where nothing is lost, nothing is counted. -/
theorem lost_eq_zero {ds : List Action} (none : ∀ d ∈ ds, d.isLoss = false) : lost ds = 0 := by
  rw [lost, List.countP_eq_zero]
  intro d mem
  have inside := (List.takeWhile_sublist _).subset mem
  rw [none d (List.mem_reverse.1 inside)]
  exact Bool.false_ne_true

/-- Where the endpoint answers, it answers with the number of accepted transfers, beyond the first nonce. -/
def Truthful (first : Nat) (ds : List Action) : Prop :=
  ∀ before k n later, ds = before ++ .reread k (.ok n) :: later → n = first + accepted before

theorem Truthful.before {first : Nat} {ds later : List Action} (h : Truthful first (ds ++ later)) : Truthful first ds := by
  intro before k n later' split
  refine h before k n (later' ++ later) ?_
  rw [split, List.append_assoc, List.cons_append]

/-! ## Numbered transfers -/

/-- What a trace tells: an accepted transfer carries the first nonce and one more for every accepted transfer and
every lost nonce before it, and there is one way for a signature to fail. -/
structure InSequence (first : Nat) (ds : List Action) : Prop where
  order : ∀ before k t later, ds = before ++ .accepted k t :: later → t.nonce = first + accepted before + lost before
  unsigned : ∀ k e, .unsigned k e ∈ ds → e = Transaction.unsignable

namespace InSequence

variable {first : Nat} {ds : List Action}

theorem start (first : Nat) : InSequence first [] where
  order before k t later split := by simp at split
  unsigned k e mem := by cases mem

/-- One more action keeps the sequence if what it accepts carries the next nonce. -/
theorem grow {d : Option Action} (h : InSequence first ds)
    (next : ∀ k t, d = some (.accepted k t) → t.nonce = first + accepted ds + lost ds)
    (failed : ∀ k e, d = some (.unsigned k e) → e = Transaction.unsignable) : InSequence first (ds ++ d.toList) where
  order before k t later split := by
    rcases split_concat split with ⟨later', old⟩ | ⟨new, all⟩
    · exact h.order before k t later' old
    · rw [next k t new, ← all]
  unsigned k e mem := by
    rcases List.mem_append.1 mem with old | new
    · exact h.unsigned k e old
    · exact failed k e (Option.mem_toList.1 new)

/-- Where nothing is lost, the accepted transfers carry nonces in a row. -/
theorem range (h : InSequence first ds) (none : ∀ d ∈ ds, d.isLoss = false) :
    (ds.filterMap Action.accepted?).map (·.nonce) = List.range' first (accepted ds) := by
  induction ds using List.reverseRecOn with
  | nil => rfl
  | append_singleton ds d ih =>
    have before : ∀ d ∈ ds, d.isLoss = false := fun d mem => none d (List.mem_append_left _ mem)
    have old : InSequence first ds := by
      refine ⟨fun before k t later split => h.order before k t (later ++ [d]) ?_, fun k e mem => ?_⟩
      · rw [split, List.append_assoc, List.cons_append]
      · exact h.unsigned k e (List.mem_append_left _ mem)
    rw [List.filterMap_append, List.map_append, ih old before, accepted_concat]
    cases d with
    | accepted k t =>
      have nonce : t.nonce = first + accepted ds := by
        rw [h.order ds k t [] rfl, lost_eq_zero before, Nat.add_zero]
      show List.range' first (accepted ds) ++ [t.nonce] = List.range' first (accepted ds + 1)
      rw [nonce, List.range'_concat, Nat.one_mul]
    | _ => exact List.append_nil _

end InSequence

/-- No transfer is between the check of the balance and the end of its submission. -/
def Funder.Quiet (f : Funder) : Prop := ∀ k st, f.stage? k = some st → st.isSending = false

theorem Locked.quiet {f : Funder} (lock : Locked f) (free : f.holder = none) : f.Quiet := by
  intro k st there
  rw [← Bool.not_eq_true]
  intro sending
  exact absurd ((lock k st there sending).symm.trans free) nofun

/-- **Transfers are numbered**: while none is sending, the next nonce is the one after the accepted transfers and the
lost nonces; while one is, that one is taken. -/
structure Numbered (first : Nat) (f : Funder) (ds : List Action) : Prop where
  told : InSequence first ds
  free : f.Quiet → f.registry.funding.nextNonce = first + accepted ds + lost ds
  taken : ∀ k st, f.stage? k = some st → st.isSending →
    f.registry.funding.nextNonce = first + accepted ds + lost ds + 1
  sending : ∀ k o t, f.stage? k = some (.sending o t) → f.registry.funding.nextNonce = t.nonce + 1

namespace Numbered

variable {s : Setup} {first : Nat} {f f' : Funder} {ds : List Action} {d : Option Action} {k : Nat} {a b : Stage}

theorem start (registry : Registry) (pool : Pool) (now : Nat) :
    Numbered registry.funding.nextNonce (Funder.start registry pool now) [] where
  told := .start _
  free _ := rfl
  taken k st there := by simp [Funder.start, Funder.stage?] at there
  sending k o t there := by simp [Funder.start, Funder.stage?] at there

/-- While no transfer is sending, the next nonce is all there is to say. -/
theorem of_quiet (told : InSequence first ds) (quiet : f.Quiet)
    (next : f.registry.funding.nextNonce = first + accepted ds + lost ds) : Numbered first f ds where
  told := told
  free _ := next
  taken k st there sending := by
    rw [quiet k st there] at sending
    cases sending
  sending k o t there := by cases quiet k _ there

/-- After the only transfer that was sending moved on, none is. -/
theorem quiet_of_leave (others : ∀ j st, k ≠ j → f.stage? j = some st → st.isSending = false)
    (here : f.stage? k = some a) (reached : f'.transfers = (f.reach k b).transfers) (ended : b.isSending = false) :
    f'.Quiet := by
  intro j st there
  rcases Funder.mine_or_old here reached there with ⟨-, rfl⟩ | ⟨other, old⟩
  · exact ended
  · exact others j st other old

/-- A move that neither begins nor ends a submission keeps the transfers numbered. -/
theorem stay (h : Numbered first f ds) (here : f.stage? k = some a)
    (reached : f'.transfers = (f.reach k b).transfers) (before : a.isSending = false) (after : b.isSending = false)
    (next : f'.registry.funding.nextNonce = f.registry.funding.nextNonce)
    (silent : ∀ x, d = some x → x.accepted? = none ∧ x.isAnswer = false ∧ x.isLoss = false) :
    Numbered first f' (ds ++ d.toList) := by
  have same : accepted (ds ++ d.toList) = accepted ds ∧ lost (ds ++ d.toList) = lost ds := by
    cases d with
    | none => simp
    | some x =>
      obtain ⟨accepts, answer, loss⟩ := silent x rfl
      simp [accepted_concat, lost_concat, accepts, answer, loss]
  refine ⟨h.told.grow ?_ ?_, fun quiet => ?_, fun j st there sending => ?_, fun j o t there => ?_⟩
  · rintro k t rfl
    cases (silent _ rfl).1
  · rintro k e rfl
    cases (silent _ rfl).2.2
  · rw [next, same.1, same.2]
    refine h.free fun j st there => ?_
    by_cases mine : k = j
    · subst mine
      rw [here] at there
      cases there
      exact before
    · refine quiet j st ?_
      rw [Funder.stage?_reach here reached, if_neg mine]
      exact there
  · rw [next, same.1, same.2]
    rcases Funder.mine_or_old here reached there with ⟨-, rfl⟩ | ⟨-, old⟩
    · rw [after] at sending
      cases sending
    · exact h.taken j st old sending
  · rw [next]
    rcases Funder.mine_or_old here reached there with ⟨-, rfl⟩ | ⟨-, old⟩
    · cases after
    · exact h.sending j o t old

/-- **Every move keeps the transfers numbered**, if the endpoint tells the truth. -/
theorem move (h : Numbered first f ds) (lock : Locked f) (truthful : Truthful first (ds ++ d.toList))
    (m : Move s f d f') : Numbered first f' (ds ++ d.toList) := by
  cases m with
  | rest =>
    rw [Option.toList_none, List.append_nil]
    exact ⟨h.told, h.free, h.taken, h.sending⟩
  | request worker =>
    rw [Option.toList_none, List.append_nil]
    refine ⟨h.told, fun quiet => h.free fun j st there => ?_, fun j st there sending => ?_, fun j o t there => ?_⟩
    · exact quiet j st (Funder.stage?_request_of_some rfl there)
    · rcases @Funder.stage?_request f _ worker rfl j _ there with old | rfl
      · exact h.taken j st old sending
      · cases sending
    · rcases @Funder.stage?_request f _ worker rfl j _ there with old | new
      · exact h.sending j o t old
      · cases new
  | wait here idle waits =>
    exact h.stay here rfl (Stage.isSending_of_isIdle idle) (Stage.isSending_of_isIdle waits) rfl nofun
  | refuse here idle mine => exact h.stay here rfl (Stage.isSending_of_isIdle idle) rfl rfl nofun
  | @unsigned k a e log here idle mine unsignable =>
    have alone : f.Quiet := fun j st => lock.alone here idle mine
    refine of_quiet (h.told.grow nofun ?_) (quiet_of_leave (fun j st _ => alone j st) here rfl rfl) ?_
    · rintro k e ⟨⟩
      exact unsignable
    · show f.registry.funding.nextNonce + 1 = _
      rw [Option.toList_some, accepted_concat, lost_concat, h.free alone]
      rfl
  | @sign k a o t log here idle mine fair covered made =>
    have next : t.nonce = f.registry.funding.nextNonce := by
      rw [SignedTransaction.nonce, made]
      rfl
    have alone : f.Quiet := fun j st => lock.alone here idle mine
    have free := h.free alone
    rw [Option.toList_none, List.append_nil]
    refine ⟨h.told, fun quiet => ?_, fun _ _ _ _ => congrArg (· + 1) free, fun j o' t' there => ?_⟩
    · cases quiet k _ (Funder.stage?_reach_self here (.sending o t))
    · rcases Funder.mine_or_old here rfl there with ⟨-, mine⟩ | ⟨-, old⟩
      · cases mine
        exact congrArg (· + 1) next.symm
      · cases alone j _ old
  | @accept k o t here =>
    have next := h.sending k o t here
    have taken := h.taken k _ here rfl
    refine of_quiet (h.told.grow ?_ nofun) (quiet_of_leave (fun j st => lock.others here rfl) here rfl rfl) ?_
    · rintro k t ⟨⟩
      omega
    · show f.registry.funding.nextNonce = _
      rw [Option.toList_some, accepted_concat, lost_concat, taken]
      show first + accepted ds + lost ds + 1 = first + (accepted ds + 1) + (lost ds + 0)
      omega
  | @reject k o t e here =>
    have taken := h.taken k _ here rfl
    rw [Option.toList_none, List.append_nil]
    refine ⟨h.told, fun quiet => ?_, fun _ _ _ _ => taken, fun j o' t' there => ?_⟩
    · cases quiet k _ (Funder.stage?_reach_self here (.resyncing o e))
    · rcases Funder.mine_or_old here rfl there with ⟨-, mine⟩ | ⟨other, old⟩
      · cases mine
      · cases lock.others here rfl other old
  | @reread k o e answer log here =>
    refine of_quiet (h.told.grow nofun nofun) (quiet_of_leave (fun j st => lock.others here rfl) here rfl rfl) ?_
    show answer.toOption.getD f.registry.funding.nextNonce = _
    rw [Option.toList_some, accepted_concat, lost_concat]
    cases answer with
    | ok n => exact truthful ds k n [] rfl
    | error e' => exact h.taken k _ here rfl
  | receive here =>
    refine h.stay here rfl rfl rfl rfl ?_
    rintro _ ⟨⟩
    exact ⟨rfl, rfl, rfl⟩
  | lapse here => exact h.stay here rfl rfl rfl rfl nofun

/-- Every sequence of events keeps the transfers numbered, if the endpoint tells the truth. -/
theorem after (s : Setup) (registry : Registry) (pool : Pool) (now : Nat) (events : List Event)
    (truthful : Truthful registry.funding.nextNonce ((Funder.start registry pool now).trace s events)) :
    Locked ((Funder.start registry pool now).after s events) ∧
      Numbered registry.funding.nextNonce ((Funder.start registry pool now).after s events)
        ((Funder.start registry pool now).trace s events) := by
  have both := Funder.after_induction (s := s) (f := Funder.start registry pool now)
    (P := fun f ds => Locked f ∧ (Truthful registry.funding.nextNonce ds → Numbered registry.funding.nextNonce f ds))
    ⟨Locked.start registry pool now, fun _ => start registry pool now⟩
    (fun ⟨lock, numbered⟩ m => ⟨lock.move m, fun truthful => (numbered truthful.before).move lock truthful m⟩) events
  exact ⟨both.1, both.2 truthful⟩

end Numbered

/-! ## Room for the next nonce -/

namespace Stage

/-- How many nonces a transfer can have used up: one, as soon as its signature was tried. -/
def nonces : Stage → Nat
  | requested | quoting _ | queued _ => 0
  | sending _ _ | resyncing _ _ | awaiting _ _ _ | done _ => 1

/-- How often a transfer can have been accepted: once, as soon as its submission is over. -/
def acceptances : Stage → Nat
  | awaiting _ _ _ | done _ => 1
  | requested | quoting _ | queued _ | sending _ _ | resyncing _ _ => 0

theorem acceptances_le_nonces (st : Stage) : st.acceptances ≤ st.nonces := by
  cases st <;> simp [acceptances, nonces]

theorem nonces_le_one (st : Stage) : st.nonces ≤ 1 := by
  cases st <;> simp [nonces]

theorem unused_of_isIdle {st : Stage} (idle : st.isIdle) (onward : st.isDone = false) :
    st.nonces = 0 ∧ st.acceptances = 0 := by
  cases st <;> simp_all [nonces, acceptances, isIdle, isDone]

end Stage

/-- Where the endpoint answers, it counts no more transfers than it has accepted, beyond `bound`. -/
def Modest (bound : Nat) (ds : List Action) : Prop :=
  ∀ before k n later, ds = before ++ .reread k (.ok n) :: later → n ≤ bound + accepted before

theorem Modest.before {bound : Nat} {ds later : List Action} (h : Modest bound (ds ++ later)) : Modest bound ds := by
  intro before k n later' split
  refine h before k n (later' ++ later) ?_
  rw [split, List.append_assoc, List.cons_append]

theorem Truthful.modest {first : Nat} {ds : List Action} (h : Truthful first ds) : Modest first ds :=
  fun before k n later split => Nat.le_of_eq (h before k n later split)

/-- **There is room for the next nonce**: nothing was accepted, and no nonce used up, but by a transfer. -/
structure Roomy (bound : Nat) (f : Funder) (ds : List Action) : Prop where
  accepted : accepted ds ≤ f.sumOver Stage.acceptances
  next : f.registry.funding.nextNonce ≤ bound + f.sumOver Stage.nonces

namespace Roomy

variable {s : Setup} {bound : Nat} {f f' : Funder} {ds : List Action} {d : Option Action} {k : Nat} {a b : Stage}

/-- A transfer that comes to another stage keeps the room, if its action and the nonce that it uses up are counted. -/
theorem reach (h : Roomy bound f ds) (here : f.stage? k = some a) (reached : f'.transfers = (f.reach k b).transfers)
    (accepts : TxLoad.Funding.accepted (ds ++ d.toList) + a.acceptances ≤ TxLoad.Funding.accepted ds + b.acceptances)
    (uses : f'.registry.funding.nextNonce + a.nonces ≤ f.registry.funding.nextNonce + b.nonces) :
    Roomy bound f' (ds ++ d.toList) where
  accepted := by
    have counted := f.sumOver_reach Stage.acceptances here reached
    have := h.accepted
    omega
  next := by
    have counted := f.sumOver_reach Stage.nonces here reached
    have := h.next
    omega

/-- A transfer that has used up nothing yet goes on: what it brings along is all that is counted. -/
theorem leave (h : Roomy bound f ds) (here : f.stage? k = some a) (idle : a.isIdle) (onward : a.isDone = false)
    (reached : f'.transfers = (f.reach k b).transfers)
    (accepts : TxLoad.Funding.accepted (ds ++ d.toList) ≤ TxLoad.Funding.accepted ds + b.acceptances)
    (uses : f'.registry.funding.nextNonce ≤ f.registry.funding.nextNonce + b.nonces) :
    Roomy bound f' (ds ++ d.toList) := by
  obtain ⟨unused, unaccepted⟩ := Stage.unused_of_isIdle idle onward
  exact h.reach here reached (by rwa [unaccepted]) (by rwa [unused])

/-- **Every move keeps the room**, if the endpoint is modest. -/
theorem move (h : Roomy bound f ds) (modest : Modest bound (ds ++ d.toList)) (m : Move s f d f') :
    Roomy bound f' (ds ++ d.toList) := by
  cases m with
  | rest =>
    rw [Option.toList_none, List.append_nil]
    exact ⟨h.accepted, h.next⟩
  | request worker =>
    rw [Option.toList_none, List.append_nil]
    have same (g : Stage → Nat) (none : g .requested = 0) :
        { f with transfers := f.transfers.push ⟨worker, .requested⟩ }.sumOver g = f.sumOver g := by
      simp [Funder.sumOver, none]
    refine ⟨?_, ?_⟩
    · rw [same _ rfl]
      exact h.accepted
    · rw [same _ rfl]
      exact h.next
  | wait here idle waits fair onward => exact h.leave here idle onward rfl (by simp) (Nat.le_add_right _ _)
  | refuse here idle mine onward => exact h.leave here idle onward rfl (by simp) (Nat.le_add_right _ _)
  | unsigned here idle mine unsignable onward =>
    exact h.leave here idle onward rfl (by simp [accepted_concat, Action.accepted?]) (Nat.le_refl _)
  | sign here idle mine fair covered made onward => exact h.leave here idle onward rfl (by simp) (Nat.le_refl _)
  | accept here => exact h.reach here rfl (Nat.le_of_eq (accepted_concat ds _)) (Nat.le_refl _)
  | reject here => exact h.reach here rfl (by simp [Stage.acceptances]) (Nat.le_refl _)
  | @reread k o e answer log here =>
    have uncounted : Funding.accepted (ds ++ [.reread k answer]) = Funding.accepted ds := accepted_concat ds _
    cases answer with
    | error e' => exact h.reach here rfl (by simp [uncounted, Stage.acceptances]) (Nat.le_refl _)
    | ok n =>
      have begun : (f.reach k (.done (.error e))).sumOver Stage.acceptances + _ = _ :=
        f.sumOver_reach Stage.acceptances here rfl
      have used : (f.reach k (.done (.error e))).sumOver Stage.nonces + _ = _ :=
        f.sumOver_reach Stage.nonces here rfl
      have fewer := Funder.sumOver_le_sumOver Stage.acceptances_le_nonces f
      have answer : n ≤ bound + Funding.accepted ds := modest ds k n [] rfl
      have counted := h.accepted
      simp only [Stage.acceptances, Stage.nonces] at begun used
      refine ⟨?_, ?_⟩
      · rw [Option.toList_some, uncounted]
        show _ ≤ (f.reach k _).sumOver _
        omega
      · show n ≤ bound + (f.reach k _).sumOver _
        omega
  | receive here => exact h.reach here rfl (Nat.le_of_eq (congrArg (· + 1) (accepted_concat ds _))) (Nat.le_refl _)
  | lapse here => exact h.reach here rfl (by simp [Stage.acceptances]) (Nat.le_refl _)

/-- Every sequence of events keeps the room, if the endpoint is modest. -/
theorem after (s : Setup) (registry : Registry) (pool : Pool) (now : Nat) (events : List Event)
    (least : registry.funding.nextNonce ≤ bound)
    (modest : Modest bound ((Funder.start registry pool now).trace s events)) :
    Roomy bound ((Funder.start registry pool now).after s events)
      ((Funder.start registry pool now).trace s events) :=
  Funder.after_induction (s := s) (f := Funder.start registry pool now)
    (P := fun f ds => Modest bound ds → Roomy bound f ds)
    (fun _ => ⟨Nat.zero_le _, Nat.le_add_right_of_le least⟩)
    (fun roomy m modest => (roomy modest.before).move modest m) events modest

theorem nextNonce_le (h : Roomy bound f ds) : f.registry.funding.nextNonce ≤ bound + f.transfers.size :=
  h.next.trans (Nat.add_le_add_left (f.sumOver_le_size Stage.nonces_le_one) _)

end Roomy

/-! ## Answers behind a lost nonce -/

/-- After a transfer was accepted behind a lost nonce, the nonce is never read again with success. -/
def KeepsGaps (ds : List Action) : Prop :=
  ∀ before k t later, ds = before ++ .accepted k t :: later → lost before ≠ 0 → ∀ j n, .reread j (.ok n) ∉ later

/-- As long as no answer comes behind a lost nonce, an accepted transfer lies below whatever comes next. -/
theorem InSequence.below {first : Nat} {ds before mid later : List Action} {k : Nat} {t : SignedTransaction}
    (h : InSequence first ds) (keeps : KeepsGaps ds) (split : ds = before ++ .accepted k t :: mid ++ later) :
    t.nonce < first + accepted (before ++ .accepted k t :: mid) + lost (before ++ .accepted k t :: mid) := by
  have all : ds = before ++ .accepted k t :: (mid ++ later) := by rw [split, List.append_assoc, List.cons_append]
  have nonce : t.nonce = first + accepted before + lost before := h.order before k t _ all
  have one : accepted (.accepted k t :: mid) = accepted mid + 1 := List.countP_cons_of_pos rfl
  have more : accepted (before ++ .accepted k t :: mid) = accepted before + (accepted mid + 1) := by
    rw [accepted_append, one]
  by_cases silent : ∀ d ∈ mid, d.isAnswer = false
  · have kept : lost before ≤ lost (before ++ .accepted k t :: mid) := by
      refine lost_le_append fun d mem => ?_
      rcases List.mem_cons.1 mem with rfl | mem
      · rfl
      · exact silent d mem
    omega
  · push Not at silent
    obtain ⟨d, mem, answer⟩ := silent
    have none : lost before = 0 := by
      by_contra some_lost
      cases d with
      | reread j answer' =>
        cases answer' with
        | ok n => exact keeps before k t _ all some_lost j n (List.mem_append_left _ mem)
        | error e => exact answer rfl
      | _ => exact answer rfl
    omega

theorem Locked.quiet_of_reread {s : Setup} {f f' : Funder} {k : Nat} {answer : Except Failure Nat} (lock : Locked f)
    (m : Move s f (some (.reread k answer)) f') : f'.Quiet := by
  cases m with
  | reread here => exact Numbered.quiet_of_leave (fun j st => lock.others here rfl) here rfl rfl

/-- The first answer behind an action comes with one event. -/
theorem Funder.exists_first_answer {s : Setup} {f : Funder} {events : List Event} {before later : List Action} {d : Action}
    {j n : Nat} (split : f.trace s events = before ++ d :: later) (mem : .reread j (.ok n) ∈ later) :
    ∃ past e future mid i m, events = past ++ e :: future ∧ f.trace s past = before ++ d :: mid ∧
      (∀ x ∈ mid, x.isAnswer = false) ∧ (f.after s past).action? s e = some (.reread i (.ok m)) := by
  obtain ⟨mid, x, rest, cut, answers, silent⟩ := exists_first (p := Action.isAnswer) mem rfl
  obtain ⟨i, m, rfl⟩ := Action.eq_of_isAnswer answers
  have told : f.trace s events = (before ++ d :: mid) ++ .reread i (.ok m) :: rest := by
    rw [split, cut, List.append_assoc, List.cons_append]
  obtain ⟨past, e, future, all, early, done⟩ := Funder.split_trace told
  exact ⟨past, e, future, mid, i, m, all, early, silent, done⟩

theorem Numbered.next_of_answer {first : Nat} {f : Funder} {ds : List Action} {k n : Nat}
    (h : Numbered first f (ds ++ [.reread k (.ok n)])) (quiet : f.Quiet) :
    f.registry.funding.nextNonce = first + accepted ds := by
  rw [h.free quiet, accepted_concat, lost_concat]
  rfl

/-- An answer behind a transfer that was accepted behind a lost nonce goes back to a nonce that some accepted transfer
carries, or further. -/
theorem InSequence.exists_not_below {first : Nat} {ds before later : List Action} {k : Nat} {t : SignedTransaction}
    (h : InSequence first ds) (split : ds = before ++ .accepted k t :: later) (some_lost : lost before ≠ 0)
    (silent : ∀ d ∈ later, d.isAnswer = false) : ∃ j u, .accepted j u ∈ ds ∧ first + accepted ds ≤ u.nonce := by
  have here : .accepted k t ∈ .accepted k t :: later := List.mem_cons_self
  obtain ⟨mid, d, rest, last, accepts, none⟩ := exists_last (p := fun d => d.accepted?.isSome) here rfl
  cases d with
  | accepted j u =>
    have all : ds = before ++ mid ++ .accepted j u :: rest := by rw [split, last, List.append_assoc]
    have nonce : u.nonce = first + accepted (before ++ mid) + lost (before ++ mid) := h.order _ j u rest all
    have one : accepted (.accepted j u :: rest) = 1 := by
      have zero : accepted rest = 0 := List.countP_eq_zero.2 fun d mem => by simp [none d mem]
      rw [accepted, List.countP_cons_of_pos (by rfl), ← accepted, zero]
    have count : accepted ds = accepted (before ++ mid) + 1 := by rw [all, accepted_append, one]
    have kept : lost before ≤ lost (before ++ mid) := by
      refine lost_le_append fun d mem => ?_
      have inside : d ∈ .accepted k t :: later := by rw [last]; exact List.mem_append_left _ mem
      rcases List.mem_cons.1 inside with rfl | mem
      · rfl
      · exact silent d mem
    exact ⟨j, u, by rw [all]; simp, by omega⟩
  | _ => cases accepts

/-- **The next nonce stays above all accepted ones exactly if no answer comes after a transfer that was accepted behind
a lost nonce**, whatever the order of the events, whichever submissions are refused and whichever readings of the nonce
fail, as long as the endpoint answers the others with the number of transfers that it has accepted.

An accepted transfer carries the first nonce and one more for every accepted transfer and every lost nonce before it;
the next nonce is the one after all of them, counted from the last answer. As long as no answer comes behind a lost
nonce, accepted transfers carry ever greater nonces. The next nonce has gone up by no more than the number of transfers,
so it stays a word if there is room for as many. -/
theorem next_above_accepted_iff (s : Setup) (registry : Registry) (pool : Pool) (now : Nat) (events : List Event)
    (truthful : Truthful registry.funding.nextNonce ((Funder.start registry pool now).trace s events)) :
    let start := Funder.start registry pool now
    let ds := start.trace s events
    let first := registry.funding.nextNonce
    (∀ before k t later, ds = before ++ .accepted k t :: later → t.nonce = first + accepted before + lost before) ∧
      ((start.after s events).Quiet →
        (start.after s events).registry.funding.nextNonce = first + accepted ds + lost ds) ∧
      ((∀ past future, events = past ++ future → (start.after s past).Quiet →
          ∀ k t, .accepted k t ∈ start.trace s past →
            t.nonce < (start.after s past).registry.funding.nextNonce) ↔ KeepsGaps ds) ∧
      (KeepsGaps ds → ((ds.filterMap Action.accepted?).map (·.nonce)).Pairwise (· < ·)) ∧
      (start.after s events).registry.funding.nextNonce ≤ first + (start.after s events).transfers.size := by
  intro start ds first
  have numbered {past future : List Event} (split : events = past ++ future) :
      Locked (start.after s past) ∧ Numbered first (start.after s past) (start.trace s past) := by
    refine Numbered.after s registry pool now past ?_
    rw [split, Funder.trace_append] at truthful
    exact truthful.before
  have whole : Numbered first (start.after s events) ds := (numbered (List.append_nil events).symm).2
  have room : Roomy first (start.after s events) ds := Roomy.after s registry pool now events le_rfl truthful.modest
  refine ⟨whole.told.order, whole.free, ⟨?goesBack, ?stays⟩, ?ordered, room.nextNonce_le⟩
  case goesBack =>
    intro above before k t later split some_lost j n mem
    obtain ⟨past, e, future, mid, i, m, rfl, early, silent, done⟩ := Funder.exists_first_answer split mem
    have upto : past ++ e :: future = (past ++ [e]) ++ future := by rw [List.append_assoc]; rfl
    obtain ⟨lock, old⟩ := numbered rfl
    obtain ⟨-, new⟩ := numbered upto
    have quiet : (start.after s (past ++ [e])).Quiet := by
      rw [Funder.after_concat]
      have rereads := Funder.move_step s (start.after s past) e
      rw [done] at rereads
      exact lock.quiet_of_reread rereads
    have grown : start.trace s (past ++ [e]) = start.trace s past ++ [.reread i (.ok m)] := by
      rw [Funder.trace_append, Funder.trace, done]
      rfl
    rw [grown] at new
    have back := new.next_of_answer quiet
    obtain ⟨j', u, told', high⟩ := old.told.exists_not_below early some_lost silent
    have low := above _ future upto quiet j' u (by rw [grown]; exact List.mem_append_left _ told')
    omega
  case stays =>
    intro keeps past future split quiet k t told
    obtain ⟨before, mid, cut⟩ := List.append_of_mem told
    have next := (numbered split).2.free quiet
    have all : ds = before ++ .accepted k t :: mid ++ (start.after s past).trace s future := by
      rw [← cut, ← Funder.trace_append, ← split]
    rw [next, cut]
    exact whole.told.below keeps all
  case ordered =>
    intro keeps
    rw [List.pairwise_map, List.pairwise_filterMap]
    refine pairwise_of_split fun before d mid d' later split t accepts t' accepts' => ?_
    obtain ⟨k, rfl⟩ := Action.eq_of_accepted? accepts
    obtain ⟨j, rfl⟩ := Action.eq_of_accepted? accepts'
    rw [whole.told.order _ j t' later split]
    exact whole.told.below keeps split

/-- A transfer is refused, the nonce is read again, and another transfer is accepted: no answer comes behind it. -/
theorem next_above_accepted_iff_refused :
    let s : Setup := ⟨⟨1, 1⟩, ⟨0, 0⟩, standardPatience, []⟩
    let registry : Registry :=
      ⟨{ Account.ofKey ⟨1, by decide, by decide⟩ 1 with balance := 1000000000000000000 },
        #[.ofKey ⟨2, by decide, by decide⟩ 1], 0⟩
    let refused : List Event := [.request 0, .begin 0, .quoted 0 (.ok (2, 1)), .sent 0 (.error .noAccounts)]
    let events : List Event :=
      refused ++ [.resynced 0 (.ok 0), .request 0, .begin 1, .quoted 1 (.ok (2, 1)), .sent 1 (.ok ())]
    let start := Funder.start registry ⟨1, [0], 0⟩ 0
    Truthful registry.funding.nextNonce (start.trace s events) ∧
      ∀ past future, events = past ++ future → (start.after s past).Quiet →
        ∀ k t, .accepted k t ∈ start.trace s past → t.nonce < (start.after s past).registry.funding.nextNonce := by
  intro s registry refused events start
  have first : registry.funding.nextNonce = 0 := rfl
  -- the account is not to be computed
  clear_value registry
  -- only one of the events reads the nonce again, and nothing was accepted before it
  have reading {before later : List Action} {k n : Nat}
      (split : start.trace s events = before ++ .reread k (.ok n) :: later) :
      n = 0 ∧ before = start.trace s refused := by
    obtain ⟨past, e, future, all, rfl, done⟩ := Funder.split_trace split
    rw [Funder.eq_of_cause? done rfl] at all
    simp only [events, refused, List.cons_append, List.nil_append, List.cons_eq_append_iff, List.cons.injEq,
      Event.resynced.injEq, reduceCtorEq, List.nil_eq, List.append_eq_nil_iff, exists_const, false_and, and_false,
      or_self, or_false, false_or] at all
    obtain ⟨-, rfl, -, rfl, -, rfl, -, rfl, rfl, ⟨rfl, same⟩, -⟩ := all
    exact ⟨Except.ok.inj same, rfl⟩
  have none (k : Nat) : .sent k (.ok ()) ∉ refused := by simp [refused]
  have truthful : Truthful registry.funding.nextNonce (start.trace s events) := by
    intro before k n later split
    obtain ⟨rfl, rfl⟩ := reading split
    rw [first, accepted_eq_zero none]
  have keeps : KeepsGaps (start.trace s events) := by
    intro before k t later split _ j n mem
    obtain ⟨mid, later, rfl⟩ := List.append_of_mem mem
    rw [← List.cons_append, ← List.append_assoc] at split
    have told : .accepted k t ∈ start.trace s refused := by
      rw [← (reading split).2]
      simp
    exact none k (Funder.mem_of_cause? told rfl)
  have iff := (next_above_accepted_iff s registry ⟨1, [0], 0⟩ 0 events truthful).2.2.1
  exact ⟨truthful, iff.2 keeps⟩

end TxLoad.Funding
