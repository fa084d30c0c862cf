import TxLoad.Proofs.Lists
import TxLoad.Proofs.Run.Nonces
import TxLoad.Proofs.Run.Quota

/-!
# Every transaction has a nonce of its own

A worker hands out its next nonce when a transaction of it is built, and never takes one back. A dispatch that ends
before it has a transaction costs no nonce, unless it was the signature that failed.

- `Recorded` says that the trace agrees with how far the dispatches have come, and that whatever is built goes to
  the path of the run at once (`Recorded.move`);
- `Drawn` ties the next nonce of a worker to the transactions built for it, and every transaction to those before it
  (`Drawn.move`);
- `loss_of_unbuilt`: a dispatch without a transaction costs a nonce only when its signature failed;
- **transactions carry the nonces of their worker in order, and none is used twice** (`nonces_in_order`).
-/

namespace TxLoad.Dispatch

/-! ## What the trace says of a dispatch -/

namespace Action

/-- The dispatch that an action belongs to. -/
def job : Action → Nat
  | admitted i | assembled i _ _ | failed i _ _ | submitted i _ | closed i _ _ => i

/-- Dispatch `i` gets its transaction. -/
def builds (i : Nat) : Action → Bool
  | assembled j _ _ => j = i
  | _ => false

/-- The transaction that is built. -/
def transaction? : Action → Option SignedTransaction
  | assembled _ _ t => some t
  | _ => none

/-- The worker and the nonce of a transaction that is built. -/
def drawn? : Action → Option (Nat × Nat)
  | assembled _ v t => some (v, t.nonce)
  | _ => none

/-- A transaction is built for worker `w`. -/
def buildsFor (w : Nat) : Action → Bool
  | assembled _ v _ => v = w
  | _ => false

theorem job_of_builds {d : Action} {i : Nat} (h : d.builds i) : d.job = i := by
  cases d with
  | assembled j => exact of_decide_eq_true h
  | _ => cases h

theorem loses?_of_isAdmission {d : Action} (h : d.isAdmission) (w : Nat) : d.loses? w = none := by
  cases d with
  | admitted => rfl
  | _ => cases h

end Action

/-- Dispatch `i` got its transaction. -/
def isBuilt (ds : List Action) (i : Nat) : Bool := ds.any (Action.builds i)

/-- The transactions that were built for worker `w`. -/
def built (w : Nat) (ds : List Action) : Nat := ds.countP (Action.buildsFor w)

/-- The nonces of worker `w` that were used up by dispatches without a transaction. -/
def unsigned (w : Nat) (ds : List Action) : Nat := ds.countP fun d => !isBuilt ds d.job && (d.loses? w).isSome

theorem isBuilt_concat (ds : List Action) (x : Action) (i : Nat) : isBuilt (ds ++ [x]) i = (isBuilt ds i || x.builds i) := by
  simp [isBuilt]

/-- An action of a dispatch that only was admitted before adds to what went without a transaction at most itself. -/
theorem unsigned_concat {ds : List Action} {x : Action} (fresh : ∀ y ∈ ds, x.builds y.job → y.isAdmission) (w : Nat) :
    unsigned w (ds ++ [x]) =
      unsigned w ds + if !(isBuilt ds x.job || x.builds x.job) && (x.loses? w).isSome then 1 else 0 := by
  have before : ds.countP (fun y => !isBuilt (ds ++ [x]) y.job && (y.loses? w).isSome) = unsigned w ds := by
    apply List.countP_congr
    intro y mem
    rw [isBuilt_concat]
    cases builds : x.builds y.job with
    | false => simp
    | true => simp [Action.loses?_of_isAdmission (fresh y mem builds)]
  rw [unsigned, List.countP_append, before, List.countP_singleton, isBuilt_concat]

/-! ## The trace and the stages -/

/-- **The trace agrees with the stages**: a dispatch without a transaction was only admitted, one that is sending
got its transaction, and the transactions were handed to the path of the run in the order in which they were built. -/
structure Recorded (s : Setup) (r : Run) (ds : List Action) : Prop where
  within : ∀ d ∈ ds, d.job < r.jobs.size ∨ d.isAdmission
  early : ∀ i st, r.jobs[i]? = some st → st.isUnassembled → ∀ d ∈ ds, d.job = i → d.isAdmission
  sending : ∀ i endpoint w t, r.jobs[i]? = some (.sending endpoint w t) → isBuilt ds i
  once : ∀ i, ds.countP (Action.builds i) ≤ 1
  handed : r.submissions.toList = (ds.filterMap Action.transaction?).map (s.path, ·)

namespace Recorded

variable {s : Setup} {r r' : Run} {ds : List Action} {d : Option Action} {i : Nat}

theorem start (s : Setup) (pool : Pool) (registry : Registry) (now : Nat) :
    Recorded s (Run.start s pool registry now) [] where
  within _ mem := by cases mem
  early _ _ here := by simp [Run.start] at here
  sending _ _ _ _ here := by simp [Run.start] at here
  once _ := Nat.zero_le _
  handed := rfl

/-- A move that does nothing and leaves every stage as it is keeps the record. -/
theorem frame (h : Recorded s r ds) (jobs : r'.jobs = r.jobs) (submissions : r'.submissions = r.submissions) :
    Recorded s r' (ds ++ (none : Option Action).toList) := by
  rw [Option.toList_none, List.append_nil]
  refine ⟨?_, ?_, ?_, h.once, ?_⟩
  · rw [jobs]; exact h.within
  · rw [jobs]; exact h.early
  · rw [jobs]; exact h.sending
  · rw [submissions]; exact h.handed

/-- An admission keeps the record: nothing else was told of the new dispatch. -/
theorem enter (h : Recorded s r ds) (gate : Gate) (n : Nat) :
    Recorded s (r.beginDispatch s gate) (ds ++ [.admitted n]) where
  within x mem := by
    rcases List.mem_append.1 mem with old | new
    · rcases h.within x old with low | admission
      · left
        rw [Run.jobs_beginDispatch, Array.size_push]
        omega
      · exact .inr admission
    · rw [List.mem_singleton.1 new]
      exact .inr rfl
  early j st here early x mem same := by
    rcases List.mem_append.1 mem with old | new
    · rw [Run.jobs_beginDispatch, Array.getElem?_push] at here
      split at here
      · next last =>
        rcases h.within x old with low | admission
        · omega
        · exact admission
      · exact h.early j st here early x old same
    · rw [List.mem_singleton.1 new]
      rfl
  sending j endpoint w t here := by
    rw [Run.jobs_beginDispatch, Array.getElem?_push] at here
    split at here
    · cases here
    · rw [isBuilt_concat, h.sending j endpoint w t here, Bool.true_or]
  once j := by
    rw [List.countP_append]
    exact h.once j
  handed := by
    rw [List.filterMap_append, List.map_append]
    exact h.handed.trans (List.append_nil _).symm

/-- A dispatch that comes to a stage keeps the record, if the action tells what happened to it. -/
theorem reach (h : Recorded s r ds) {a b : Stage} (here : r.jobs[i]? = some a)
    (jobs : r'.jobs = r.jobs.setIfInBounds i b) (mine : ∀ x ∈ d, x.job = i)
    (onward : b.isUnassembled → a.isUnassembled ∧ d = none)
    (builds : ∀ x ∈ d, x.builds i → a.isUnassembled)
    (sends : ∀ endpoint w t, b = .sending endpoint w t → ∃ x ∈ d, x.builds i)
    (handed : r'.submissions.toList =
      r.submissions.toList ++ (d.toList.filterMap Action.transaction?).map (s.path, ·)) :
    Recorded s r' (ds ++ d.toList) where
  within x mem := by
    have size : r'.jobs.size = r.jobs.size := by rw [jobs, Array.size_setIfInBounds]
    rw [size]
    rcases List.mem_append.1 mem with old | new
    · exact h.within x old
    · left
      rw [mine x (Option.mem_toList.1 new)]
      exact (Array.getElem?_eq_some_iff.1 here).1
  early j st there early x mem same := by
    by_cases at_i : i = j
    · rw [← at_i, jobs, Run.getElem?_reach here] at there
      cases there
      obtain ⟨before, none⟩ := onward early
      rw [none, Option.toList_none, List.append_nil] at mem
      exact h.early i a here before x mem (same.trans at_i.symm)
    · rw [jobs, Array.getElem?_setIfInBounds_ne at_i] at there
      rcases List.mem_append.1 mem with old | new
      · exact h.early j st there early x old same
      · exact absurd ((mine x (Option.mem_toList.1 new)).symm.trans same) at_i
  sending j endpoint w t there := by
    by_cases at_i : i = j
    · rw [← at_i, jobs, Run.getElem?_reach here] at there
      obtain ⟨x, done, built⟩ := sends endpoint w t (Option.some.inj there)
      rw [← at_i]
      exact List.any_eq_true.2 ⟨x, List.mem_append_right _ (Option.mem_toList.2 done), built⟩
    · rw [jobs, Array.getElem?_setIfInBounds_ne at_i] at there
      obtain ⟨x, mem, built⟩ := List.any_eq_true.1 (h.sending j endpoint w t there)
      exact List.any_eq_true.2 ⟨x, List.mem_append_left _ mem, built⟩
  once j := by
    rw [List.countP_append]
    cases d with
    | none => exact h.once j
    | some x =>
      rw [Option.toList_some, List.countP_singleton]
      split
      · next built =>
        -- a dispatch that gets its transaction now had none before
        have at_i : i = j := (mine x rfl).symm.trans (Action.job_of_builds built)
        have none : ds.countP (Action.builds j) = 0 := by
          rw [List.countP_eq_zero]
          intro y mem again
          have admission := h.early i a here (builds x rfl (at_i ▸ built)) y mem
            ((Action.job_of_builds again).trans at_i.symm)
          cases y with
          | assembled => cases admission
          | _ => cases again
        omega
      · exact h.once j
  handed := by rw [handed, h.handed, List.filterMap_append, List.map_append]

/-- **Every move keeps the record.** -/
theorem move (h : Recorded s r ds) (m : Move s r d r') : Recorded s r' (ds ++ d.toList) := by
  cases m with
  | rest | queue | pace | join | conclude | abort => exact h.frame rfl rfl
  | enter => exact h.enter _ _
  | @quote i endpoint worker _ _ here =>
    exact h.reach (b := .quoting endpoint worker) here rfl (by simp) (fun _ => ⟨rfl, rfl⟩) (by simp) (by simp) (by simp)
  | @assemble i endpoint worker _ st _ _ _ t _ _ here early =>
    refine h.reach (b := .sending endpoint worker t) here rfl ?_ nofun ?_ ?_ ?_
    · rintro x ⟨⟩
      rfl
    · rintro x ⟨⟩ -
      exact early
    · rintro _ _ _ -
      exact ⟨_, rfl, by simp [Action.builds]⟩
    · simp [Action.transaction?]
  | @fail i _ st loss _ e _ _ here =>
    refine h.reach (b := .failed e) here rfl ?_ nofun ?_ nofun ?_
    · rintro x ⟨⟩
      rfl
    · rintro x ⟨⟩ built
      cases built
    · simp [Action.transaction?]
  | @submit i endpoint worker t _ here =>
    refine h.reach (b := .submitted ⟨i, endpoint, worker, t, r.now⟩) here rfl ?_ nofun ?_ nofun ?_
    · rintro x ⟨⟩
      rfl
    · rintro x ⟨⟩ built
      cases built
    · simp [Action.transaction?]
  | @watch i p here => exact h.reach (b := .watching p) here rfl (by simp) nofun (by simp) nofun (by simp)
  | @breakOff i p here => exact h.reach (b := .broken p) here rfl (by simp) nofun (by simp) nofun (by simp)
  | @close i p v _ here =>
    refine h.reach (b := .closed p v) here rfl ?_ nofun ?_ nofun ?_
    · rintro x ⟨⟩
      rfl
    · rintro x ⟨⟩ built
      cases built
    · simp [Action.transaction?]

/-- A dispatch without a transaction got none. -/
theorem isBuilt_of_early (h : Recorded s r ds) {st : Stage} (here : r.jobs[i]? = some st) (early : st.isUnassembled) :
    isBuilt ds i = false := by
  rw [isBuilt, List.any_eq_false]
  intro x mem built
  have admission := h.early i st here early x mem (Action.job_of_builds built)
  cases x with
  | admitted => cases built
  | _ => cases admission

theorem after (s : Setup) (pool : Pool) (registry : Registry) (now : Nat) (events : List Event) :
    Recorded s ((Run.start s pool registry now).after s events) ((Run.start s pool registry now).trace s events) :=
  Run.after_induction (start s pool registry now) (fun h m => h.move m) events

end Recorded

/-! ## Nonces in order -/

/-- **Nonces are drawn in order**: the next nonce of a worker has gone up by one for every transaction and for every
signature that failed, a transaction carries the next nonce of its moment, and every dispatch draws at most one. -/
structure Drawn (first : Nat → Nat) (r : Run) (ds : List Action) : Prop where
  next : ∀ w, nonce r.registry.workers w = first w + built w ds + unsigned w ds
  order : ∀ before i w t later, ds = before ++ .assembled i w t :: later →
    t.nonce = first w + built w before + unsigned w before
  room : ∀ w, nonce r.registry.workers w + r.jobs.countP Stage.isUnassembled ≤ first w + r.jobs.size
  below : ∀ w n, (w, n) ∈ ds.filterMap Action.drawn? → n < nonce r.registry.workers w
  distinct : (ds.filterMap Action.drawn?).Nodup

namespace Drawn

variable {s : Setup} {first : Nat → Nat} {r r' : Run} {ds : List Action} {d : Option Action}

theorem start (s : Setup) (pool : Pool) (registry : Registry) (now : Nat) :
    Drawn (nonce registry.workers) (Run.start s pool registry now) [] where
  next _ := rfl
  order before _ _ _ _ h := by simp at h
  room _ := Nat.le_refl _
  below _ _ mem := by cases mem
  distinct := List.nodup_nil

/-- What a move draws has to be told, and what it builds has to carry the next nonce. -/
theorem grow (h : Drawn first r ds) (draws : Nat → Nat)
    (next : ∀ w, nonce r'.registry.workers w = nonce r.registry.workers w + draws w)
    (told : ∀ w, built w (ds ++ d.toList) + unsigned w (ds ++ d.toList) = built w ds + unsigned w ds + draws w)
    (fresh : ∀ i w t, d = some (.assembled i w t) → t.nonce = nonce r.registry.workers w ∧ draws w = 1)
    (room : ∀ w, draws w + r'.jobs.countP Stage.isUnassembled + r.jobs.size ≤
      r.jobs.countP Stage.isUnassembled + r'.jobs.size) : Drawn first r' (ds ++ d.toList) := by
  refine ⟨?next, ?order, ?room, ?below, ?distinct⟩
  case next =>
    intro w
    have := h.next w
    have := told w
    rw [next]
    omega
  case order =>
    intro before i w t later split
    rcases split_concat split with ⟨later', old⟩ | ⟨new, all⟩
    · exact h.order before i w t later' old
    · rw [(fresh i w t new).1, ← all]
      exact h.next w
  case room =>
    intro w
    have := h.room w
    have := room w
    rw [next]
    omega
  case below =>
    intro w n mem
    rw [List.filterMap_append] at mem
    rcases List.mem_append.1 mem with old | new
    · have := h.below w n old
      rw [next]
      omega
    · obtain ⟨x, done, drawn⟩ := List.mem_filterMap.1 new
      cases x with
      | assembled i v t =>
        cases drawn
        obtain ⟨carried, one⟩ := fresh i w t (Option.mem_toList.1 done)
        rw [next, carried, one]
        omega
      | _ => cases drawn
  case distinct =>
    rw [List.filterMap_append, List.nodup_append]
    refine ⟨h.distinct, ?_, ?_⟩
    · cases d with
      | none => exact List.nodup_nil
      | some x =>
        cases x with
        | assembled => exact List.pairwise_singleton _ _
        | _ => exact List.nodup_nil
    · rintro ⟨v, n⟩ old _ new rfl
      obtain ⟨x, done, drawn⟩ := List.mem_filterMap.1 new
      cases x with
      | assembled i w t =>
        cases drawn
        have low := h.below v _ old
        rw [(fresh i v t (Option.mem_toList.1 done)).1] at low
        exact Nat.lt_irrefl _ low
      | _ => cases drawn

theorem keep (h : Drawn first r ds) (next : ∀ w, nonce r'.registry.workers w = nonce r.registry.workers w)
    (told : ∀ w, built w (ds ++ d.toList) + unsigned w (ds ++ d.toList) = built w ds + unsigned w ds)
    (other : ∀ i w t, d ≠ some (.assembled i w t))
    (room : r'.jobs.countP Stage.isUnassembled + r.jobs.size ≤ r.jobs.countP Stage.isUnassembled + r'.jobs.size) :
    Drawn first r' (ds ++ d.toList) :=
  h.grow (fun _ => 0) next told (fun i w t is => absurd is (other i w t)) (fun _ => by omega)

theorem told_concat {ds : List Action} {x : Action} (fresh : ∀ y ∈ ds, x.builds y.job → y.isAdmission) (w : Nat) :
    built w (ds ++ [x]) + unsigned w (ds ++ [x]) = built w ds + unsigned w ds + (if x.buildsFor w then 1 else 0) +
      if !(isBuilt ds x.job || x.builds x.job) && (x.loses? w).isSome then 1 else 0 := by
  rw [unsigned_concat fresh, built, built, List.countP_append, List.countP_singleton]
  omega

theorem told_of_idle {ds : List Action} {x : Action} (builds : ∀ i, x.builds i = false) {w : Nat}
    (other : x.buildsFor w = false) (loses : x.loses? w = none) :
    built w (ds ++ [x]) + unsigned w (ds ++ [x]) = built w ds + unsigned w ds := by
  rw [told_concat (fun y _ b => by simp [builds] at b), other, loses]
  simp

/-- A dispatch that moves on makes no more dispatches wait for their transaction. -/
theorem room_of_set {jobs : Array Stage} {i : Nat} {a : Stage} (here : jobs[i]? = some a) (b : Stage)
    (onward : b.isUnassembled → a.isUnassembled) :
    (jobs.setIfInBounds i b).countP Stage.isUnassembled + jobs.size ≤
      jobs.countP Stage.isUnassembled + (jobs.setIfInBounds i b).size := by
  have moved := countP_reach Stage.isUnassembled here b
  rw [Array.size_setIfInBounds]
  by_cases early : b.isUnassembled
  · rw [if_pos early, if_pos (onward early)] at moved
    omega
  · rw [if_neg early] at moved
    omega

/-- A dispatch that does not wait for its transaction afterwards makes no more wait. -/
theorem room_of_leave {jobs : Array Stage} {i : Nat} {a b : Stage} (here : jobs[i]? = some a)
    (gone : b.isUnassembled = false) :
    (jobs.setIfInBounds i b).countP Stage.isUnassembled + jobs.size ≤
      jobs.countP Stage.isUnassembled + (jobs.setIfInBounds i b).size := by
  refine room_of_set here b fun early => ?_
  rw [gone] at early
  cases early

/-- A dispatch that waits for its transaction no longer leaves room for the nonce that it drew. -/
theorem room_of_draw {jobs : Array Stage} {i : Nat} {a : Stage} (here : jobs[i]? = some a) (early : a.isUnassembled)
    (b : Stage) (gone : b.isUnassembled = false) {draws : Nat} (one : draws ≤ 1) :
    draws + (jobs.setIfInBounds i b).countP Stage.isUnassembled + jobs.size ≤
      jobs.countP Stage.isUnassembled + (jobs.setIfInBounds i b).size := by
  have moved := countP_reach Stage.isUnassembled here b
  rw [if_pos early, gone, if_neg (by simp)] at moved
  rw [Array.size_setIfInBounds]
  omega

/-- **Every move draws nonces in order.** -/
theorem move (h : Drawn first r ds) (record : Recorded s r ds) (m : Move s r d r') :
    Drawn first r' (ds ++ d.toList) := by
  cases m with
  | rest | queue | pace | join | conclude | abort =>
    exact h.keep (fun _ => rfl) (fun _ => by simp) (by simp) (Nat.le_refl _)
  | enter =>
    refine h.keep (fun _ => rfl) (fun w => told_of_idle (fun _ => rfl) rfl rfl) (by simp) ?_
    rw [Run.jobs_beginDispatch, Array.countP_push, Array.size_push]
    split <;> omega
  | quote here => exact h.keep (fun _ => rfl) (fun _ => by simp) (by simp) (room_of_set here _ fun _ => rfl)
  | @assemble i endpoint worker _ st account _ _ t _ _ here early sender assembled =>
    refine h.grow (fun w => if worker = w then 1 else 0) (nonce_reserve sender) (fun w => ?_) ?_ (fun w => ?_)
    · have fresh : ∀ y ∈ ds, (Action.assembled i worker t).builds y.job → y.isAdmission := fun y mem same =>
        record.early i st here early y mem (of_decide_eq_true same).symm
      rw [Option.toList_some, told_concat fresh]
      simp [Action.buildsFor, Action.loses?]
    · rintro _ _ _ ⟨⟩
      rw [nonce_of_assemble assembled, nonce, sender, if_pos rfl]
      exact ⟨rfl, rfl⟩
    · exact room_of_draw here early _ rfl (by split <;> omega)
  | @fail i _ st loss workers e _ _ here spends =>
    cases spends with
    | nothing early =>
      exact h.keep (fun _ => rfl) (fun w => told_of_idle (fun _ => rfl) rfl rfl) (by simp) (room_of_leave here rfl)
    | @unsigned _ v account early sender =>
      refine h.grow (fun w => if v = w then 1 else 0) (nonce_reserve sender) (fun w => ?_) (by simp) (fun w => ?_)
      · have unbuilt := record.isBuilt_of_early here early
        rw [Option.toList_some, told_concat (fun y _ b => by cases b)]
        by_cases mine : v = w <;> simp [Action.job, Action.builds, Action.buildsFor, Action.loses?, unbuilt, mine]
      · exact room_of_draw here early _ rfl (by split <;> omega)
    | @refused endpoint v t =>
      refine h.keep (fun _ => rfl) (fun w => ?_) (by simp) (room_of_leave here rfl)
      have built := record.sending i endpoint v t here
      rw [Option.toList_some, told_concat (fun y _ b => by cases b)]
      simp [Action.job, Action.buildsFor, built]
  | submit here =>
    exact h.keep (fun _ => rfl) (fun w => told_of_idle (fun _ => rfl) rfl rfl) (by simp) (room_of_leave here rfl)
  | watch here | breakOff here =>
    exact h.keep (fun _ => rfl) (fun _ => by simp) (by simp) (room_of_leave here rfl)
  | @close i p v _ here =>
    refine h.keep (nonce_modify _ _ (nextNonce_charge p v)) (fun w => ?_) (by simp) (room_of_leave here rfl)
    exact told_of_idle (fun _ => rfl) rfl rfl

theorem after (s : Setup) (pool : Pool) (registry : Registry) (now : Nat) (events : List Event) :
    Drawn (nonce registry.workers) ((Run.start s pool registry now).after s events)
      ((Run.start s pool registry now).trace s events) := by
  have both := Run.after_induction (P := fun r ds => Recorded s r ds ∧ Drawn (nonce registry.workers) r ds)
    ⟨Recorded.start s pool registry now, start s pool registry now⟩
    (fun ⟨record, drawn⟩ m => ⟨record.move m, drawn.move record m⟩) events
  exact both.2

end Drawn

/-! ## What a dispatch without a transaction can cost -/

/-- Only a signature that fails uses up a nonce without a transaction, and it says so. -/
theorem unsignable_of_assemble {account : Account} {payload : Payload} {quote : Fee.Quote} {e : Failure}
    (h : account.assemble payload quote = (account.reserve, .error e)) : e = Transaction.unsignable := by
  unfold Account.assemble at h
  split at h
  · have same := congrArg Account.nextNonce (Prod.mk.inj h).1
    exact absurd same (Nat.ne_of_lt (Nat.lt_succ_self _))
  · exact Transaction.error_of_sign (Prod.mk.inj h).2

namespace Run

variable {s : Setup} {r r₁ : Run} {i : Nat} {e : Failure}

/-- A dispatch that has failed on the way from `r` to `r'` cost no worker anything, or its signature failed. -/
def Spares (r r' : Run) (i : Nat) : Prop :=
  ∀ e, r'.jobs[i]? = some (.failed e) → r'.registry.workers = r.registry.workers ∨ e = Transaction.unsignable

/-- Giving up a dispatch costs no worker anything. -/
theorem spares_abandon (same : r₁.registry.workers = r.registry.workers) (rpc : Option String) (e : Failure) :
    r.Spares (r₁.abandon s i rpc e) i := by
  intro _ _
  left
  rw [abandon_eq]
  exact same

/-- Building a transaction costs a nonce only if the signature is tried. -/
theorem spares_assemble (here : i < r₁.jobs.size) (same : r₁.registry.workers = r.registry.workers)
    (endpoint worker : Nat) (quote : Fee.Quote) : r.Spares (r₁.assemble s i endpoint worker quote) i := by
  cases sender : r₁.registry.workers[worker]? with
  | none =>
    rw [assemble_of_absent sender]
    exact spares_abandon same _ _
  | some account =>
    cases load : s.scenario.payload i account.address (s.draws i).value with
    | error e =>
      rw [assemble_of_no_payload sender load]
      exact spares_abandon (by exact same) _ _
    | ok payload =>
      rcases assemble_cases account payload quote with ⟨e, refused⟩ | ⟨e, unsigned⟩ | ⟨t, signed⟩
      · rw [assemble_of_error sender load refused]
        refine spares_abandon ?_ _ _
        exact (modify_self sender).trans same
      · intro e' failed
        right
        rw [assemble_of_error sender load unsigned, abandon_eq] at failed
        have failed : (r₁.jobs.setIfInBounds i (.failed e))[i]? = some (.failed e') := failed
        rw [Array.getElem?_setIfInBounds_self_of_lt here] at failed
        cases failed
        exact unsignable_of_assemble unsigned
      · intro e' failed
        rw [assemble_of_ok sender load signed] at failed
        have failed : (r₁.jobs.setIfInBounds i (.sending endpoint worker t))[i]? = some (.failed e') := failed
        rw [Array.getElem?_setIfInBounds_self_of_lt here] at failed
        cases failed

theorem spares_price (here : i < r₁.jobs.size) (same : r₁.registry.workers = r.registry.workers)
    (endpoint worker : Nat) (quote : Fee.Quote) : r.Spares (r₁.price s i endpoint worker quote) i := by
  unfold price
  exact spares_assemble (by exact here) (by exact same) endpoint worker quote.clamped

/-- The first step of a dispatch costs a nonce only if the signature is tried. -/
theorem spares_begin (here : r.jobs[i]? = some .admitted) : r.Spares (r.begin s i) i := by
  have inside := (Array.getElem?_eq_some_iff.1 here).1
  cases selected : r.pool.select s.options.endpointSelection i (s.draws i).endpoint with
  | mk answer pool =>
    cases answer with
    | error e =>
      rw [begin_of_unhealthy here selected]
      exact spares_abandon rfl _ _
    | ok endpoint =>
      cases picked : r.registry.pick s.options.walletSelection i (s.draws i).wallet with
      | mk worker registry =>
        have same : registry.workers = r.registry.workers := by
          obtain ⟨-, rfl⟩ := Prod.mk.inj picked
          rfl
        cases fees : s.overrides.quote? with
        | some quote =>
          rw [begin_of_fees here selected picked fees]
          exact spares_price (by exact inside) (by exact same) _ _ _
        | none =>
          intro e failed
          rw [begin_of_no_fees here selected picked fees, getElem?_reach here] at failed
          cases failed

/-- An answer about fees costs a nonce only if the signature is tried. -/
theorem spares_quoted {endpoint worker : Nat} (here : r.jobs[i]? = some (.quoting endpoint worker))
    (answer : Except Failure (Nat × Nat)) : r.Spares (r.quoted s i answer) i := by
  have inside := (Array.getElem?_eq_some_iff.1 here).1
  unfold quoted
  rw [here]
  cases answer with
  | error e => exact spares_abandon rfl _ _
  | ok fees => exact spares_price inside rfl _ _ _

/-- A step of a dispatch without a transaction costs a nonce only if the signature is tried. -/
theorem spares_step {st : Stage} (here : r.jobs[i]? = some st) (early : st.isUnassembled) {event : Event}
    (mine : event.job? = some i) : r.Spares (r.step s event) i := by
  have idle (stays : r.step s event = r) : r.Spares (r.step s event) i := by
    intro e failed
    rw [stays, here] at failed
    cases failed
    cases early
  cases st with
  | admitted =>
    cases event with
    | begin => cases mine; exact spares_begin here
    | quoted | sent | watch | answered | expired =>
      cases mine
      exact idle (by simp [step, quoted, sent, watch, answered, expired, here])
    | resume | refreshed | pass => cases mine
  | quoting endpoint worker =>
    cases event with
    | quoted => cases mine; exact spares_quoted here _
    | begin | sent | watch | answered | expired =>
      cases mine
      exact idle (by simp [step, begin, sent, watch, answered, expired, here])
    | resume | refreshed | pass => cases mine
  | _ => cases early

/-- A dispatch that fails has no transaction yet, or is sending it. -/
theorem failed_of_action? {s : Setup} {event : Event} {i : Nat} {loss : Option (Nat × Nat)} {e : Failure}
    (failed : r.action? s event = some (.failed i loss e)) :
    ∃ st, r.jobs[i]? = some st ∧ event.job? = some i ∧ (r.step s event).jobs[i]? = some (.failed e) ∧
      (st.isUnassembled ∧ loss = r.registry.reserved? (r.step s event).registry ∨
        ∃ endpoint w t, st = .sending endpoint w t) := by
  obtain other | ⟨j, a, b, mine, here, there, action⟩ := stages_of_action? failed
  · cases other
  · unfold Stage.action? at action
    split at action <;> cases action
    · exact ⟨_, here, mine, there, .inl ⟨rfl, rfl⟩⟩
    · exact ⟨_, here, mine, there, .inl ⟨rfl, rfl⟩⟩
    · exact ⟨_, here, mine, there, .inr ⟨_, _, _, rfl⟩⟩

/-- **A dispatch that ends without a transaction costs no nonce**, unless it was the signature that failed. -/
theorem loss_of_unbuilt (s : Setup) (pool : Pool) (registry : Registry) (now : Nat) (events : List Event) {i : Nat}
    {loss : Option (Nat × Nat)} {e : Failure}
    (told : .failed i loss e ∈ (Run.start s pool registry now).trace s events)
    (unbuilt : isBuilt ((Run.start s pool registry now).trace s events) i = false) :
    loss = none ∨ e = Transaction.unsignable := by
  obtain ⟨before, event, later, rfl, failed⟩ := step_of_mem_trace told
  obtain ⟨st, here, mine, there, ⟨early, rfl⟩ | ⟨endpoint, w, t, rfl⟩⟩ := failed_of_action? failed
  · rcases spares_step here early mine e there with same | unsignable
    · exact .inl (reserved?_of_workers_eq same)
    · exact .inr unsignable
  · have sent := (Recorded.after s pool registry now before).sending i endpoint w t here
    rw [trace_append, isBuilt, List.any_append, ← isBuilt, sent, Bool.true_or] at unbuilt
    cases unbuilt

/-- As long as no signature fails, every nonce that is used up belongs to a transaction. -/
theorem unsigned_eq_zero (s : Setup) (pool : Pool) (registry : Registry) (now : Nat) (events : List Event)
    (signs : ∀ i loss, .failed i loss Transaction.unsignable ∉ (Run.start s pool registry now).trace s events)
    (w : Nat) : unsigned w ((Run.start s pool registry now).trace s events) = 0 := by
  rw [unsigned, List.countP_eq_zero]
  intro x told
  cases x with
  | failed i loss e =>
    cases unbuilt : isBuilt ((Run.start s pool registry now).trace s events) i with
    | true => simp [Action.job, unbuilt]
    | false =>
      rcases loss_of_unbuilt s pool registry now events told unbuilt with rfl | rfl
      · simp [Action.loses?]
      · exact absurd told (signs i loss)
  | _ => simp [Action.loses?]

end Run

/-! ## The result -/

/-- **Transactions carry the nonces of their worker in order, and no nonce is used twice**, whatever the selections,
the answers of the endpoints and the order of the events.

A transaction carries the first nonce of its worker and one more for every transaction before it, and the next nonce
has gone up by one for every transaction so far. A dispatch that ends without a transaction uses up a nonce only when
it is the signature that failed: `unsigned` counts those, and is zero as long as no signature fails. The next nonce
has gone up by no more than the number of admissions, so it stays a word if there is room for as many dispatches.
Every dispatch gets at most one transaction, which goes to the path of the run once and to nowhere else. -/
theorem nonces_in_order (s : Setup) (pool : Pool) (registry : Registry) (now : Nat) (events : List Event) :
    let r := (Run.start s pool registry now).after s events
    let ds := (Run.start s pool registry now).trace s events
    (∀ before i w t later, ds = before ++ .assembled i w t :: later →
        t.nonce = nonce registry.workers w + built w before + unsigned w before) ∧
      (∀ w, nonce r.registry.workers w = nonce registry.workers w + built w ds + unsigned w ds) ∧
      (∀ i loss e, .failed i loss e ∈ ds → isBuilt ds i = false → loss = none ∨ e = Transaction.unsignable) ∧
      ((∀ i loss, .failed i loss Transaction.unsignable ∉ ds) → ∀ w, unsigned w ds = 0) ∧
      (∀ w, nonce r.registry.workers w ≤ nonce registry.workers w + r.context.counters.nextIndex) ∧
      (∀ i, ds.countP (Action.builds i) ≤ 1) ∧
      r.submissions.toList = (ds.filterMap Action.transaction?).map (s.path, ·) ∧
      (ds.filterMap Action.drawn?).Nodup := by
  intro r ds
  have record : Recorded s r ds := Recorded.after s pool registry now events
  have drawn : Drawn (nonce registry.workers) r ds := Drawn.after s pool registry now events
  refine ⟨drawn.order, drawn.next, ?loss, ?signs, ?room, record.once, record.handed, drawn.distinct⟩
  case loss =>
    intro i loss e told unbuilt
    exact Run.loss_of_unbuilt s pool registry now events told unbuilt
  case signs =>
    intro signs w
    exact Run.unsigned_eq_zero s pool registry now events signs w
  case room =>
    intro w
    have entered : r.jobs.size = r.context.counters.nextIndex := (Ledger.after s pool registry now events).size
    have := drawn.room w
    omega

end TxLoad.Dispatch
