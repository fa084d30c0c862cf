import TxLoad.Proofs.Run.Ending

/-!
# The nonces that a run uses up

A transaction takes the next nonce of its worker when it is built. Whether it is accepted is known later, and nobody
takes back the nonce of one that was refused.

- `accepted` and `lost` are the nonces of a worker that its accepted transactions carry and that its failures used up;
- `Nonces` says that every nonce handed out is accepted, lost or about to be sent, and only once; every move keeps it
  (`Nonces.move`).
-/

namespace TxLoad.Dispatch

/-! ## Accepted and lost nonces -/

namespace Action

/-- The nonce of an accepted transaction of worker `w`. -/
def accepts? (w : Nat) : Action → Option Nat
  | submitted _ p => if p.worker = w then some p.transaction.nonce else none
  | _ => none

/-- The nonce of worker `w` that a failure used up. -/
def loses? (w : Nat) : Action → Option Nat
  | failed _ (some (v, n)) _ => if v = w then some n else none
  | _ => none

end Action

/-- The nonces of the accepted transactions of worker `w`. -/
def accepted (w : Nat) (ds : List Action) : List Nat := ds.filterMap (Action.accepts? w)

/-- The nonces of worker `w` that failures used up. -/
def lost (w : Nat) (ds : List Action) : List Nat := ds.filterMap (Action.loses? w)

/-- The dispatch is about to send nonce `n` of worker `w`. -/
def Stage.sends (w n : Nat) : Stage → Bool
  | sending _ v t => v = w ∧ t.nonce = n
  | _ => false

theorem Stage.sends_of_isUnassembled {st : Stage} (h : st.isUnassembled) (w n : Nat) : st.sends w n = false := by
  cases st <;> first | rfl | cases h

/-- How often nonce `n` of worker `w` is accepted, lost or about to be sent. -/
def uses (jobs : Array Stage) (ds : List Action) (w n : Nat) : Nat :=
  (accepted w ds).count n + (lost w ds).count n + jobs.countP (Stage.sends w n)

/-- One more action adds the one nonce that it is about. -/
theorem count_filterMap_concat (f : Action → Option Nat) (ds : List Action) (d : Option Action) (n : Nat) :
    ((ds ++ d.toList).filterMap f).count n = (ds.filterMap f).count n + if d.bind f = some n then 1 else 0 := by
  rw [List.filterMap_append, List.count_append]
  cases d with
  | none => simp
  | some d => cases h : f d <;> simp [h, List.count_singleton]

/-- The uses of a nonce when a dispatch moves. -/
theorem uses_of_set {jobs : Array Stage} {i : Nat} {a : Stage} (here : jobs[i]? = some a) (b : Stage) (ds : List Action)
    (d : Option Action) (w n : Nat) :
    uses (jobs.setIfInBounds i b) (ds ++ d.toList) w n + (if a.sends w n then 1 else 0) =
      uses jobs ds w n + (if b.sends w n then 1 else 0) + (if d.bind (Action.accepts? w) = some n then 1 else 0) +
        if d.bind (Action.loses? w) = some n then 1 else 0 := by
  have moved := countP_reach (Stage.sends w n) here b
  simp only [uses, accepted, lost, count_filterMap_concat]
  omega

/-! ## Next nonces -/

/-- The next nonce of worker `w`, and zero for one that there is not. -/
def nonce (workers : Array Account) (w : Nat) : Nat := (workers[w]?.map (·.nextNonce)).getD 0

/-- A worker that reserves its next nonce goes on to the one after it. -/
theorem nonce_reserve {workers : Array Account} {v : Nat} {account : Account} (sender : workers[v]? = some account)
    (w : Nat) : nonce (workers.modify v fun _ => account.reserve) w = nonce workers w + if v = w then 1 else 0 := by
  rw [nonce, nonce, Array.getElem?_modify]
  split
  · next same =>
    rw [← same, sender]
    rfl
  · rfl

/-- What does not touch the next nonce of a worker leaves all of them as they are. -/
theorem nonce_modify (workers : Array Account) (v : Nat) {f : Account → Account}
    (same : ∀ account, (f account).nextNonce = account.nextNonce) (w : Nat) :
    nonce (workers.modify v f) w = nonce workers w := by
  rw [nonce, nonce, Array.getElem?_modify]
  split
  · cases workers[w]? with
    | none => rfl
    | some account => simp [same]
  · rfl

theorem nextNonce_charge (p : Pending) (v : Verdict) (account : Account) :
    (p.charge v account).nextNonce = account.nextNonce := by
  cases v <;> rfl

/-- A transaction carries the next nonce of the account that made it. -/
theorem nonce_of_assemble {account : Account} {payload : Payload} {quote : Fee.Quote} {t : SignedTransaction}
    (h : account.assemble payload quote = (account.reserve, .ok t)) : t.nonce = account.nextNonce := by
  unfold Account.assemble at h
  split at h
  · cases (Prod.mk.inj h).2
  · rw [SignedTransaction.nonce, Transaction.transaction_of_sign (Prod.mk.inj h).2]
    rfl

/-! ## Every nonce once -/

/-- **Every nonce that was handed out is accepted, lost or about to be sent, and only once.** -/
structure Nonces (w first : Nat) (r : Run) (ds : List Action) : Prop where
  le : first ≤ nonce r.registry.workers w
  once : ∀ n, uses r.jobs ds w n = if first ≤ n ∧ n < nonce r.registry.workers w then 1 else 0

namespace Nonces

variable {s : Setup} {w first : Nat} {r r' : Run} {ds : List Action} {d : Option Action}

theorem start (s : Setup) (pool : Pool) (registry : Registry) (now : Nat) :
    Nonces w (nonce registry.workers w) (Run.start s pool registry now) [] where
  le := Nat.le_refl _
  once n := by
    rw [if_neg fun h => Nat.not_lt.2 h.1 h.2]
    rfl

theorem keep (h : Nonces w first r ds) (uses : ∀ n, uses r'.jobs (ds ++ d.toList) w n = uses r.jobs ds w n)
    (next : nonce r'.registry.workers w = nonce r.registry.workers w) : Nonces w first r' (ds ++ d.toList) where
  le := by rw [next]; exact h.le
  once n := by rw [uses, next]; exact h.once n

/-- A nonce that is handed out is used once. -/
theorem spend (h : Nonces w first r ds) {v : Nat} {account : Account}
    (sender : r.registry.workers[v]? = some account)
    (workers : r'.registry.workers = r.registry.workers.modify v fun _ => account.reserve)
    (uses : ∀ n, uses r'.jobs (ds ++ d.toList) w n = uses r.jobs ds w n + if v = w ∧ account.nextNonce = n then 1 else 0) :
    Nonces w first r' (ds ++ d.toList) := by
  have next : nonce r'.registry.workers w = nonce r.registry.workers w + if v = w then 1 else 0 := by
    rw [workers, nonce_reserve sender]
  have le := h.le
  by_cases mine : v = w
  · have last : account.nextNonce = nonce r.registry.workers w := by rw [← mine, nonce, sender]; rfl
    rw [if_pos mine] at next
    refine ⟨by omega, fun n => ?_⟩
    rw [uses, next, h.once, last]
    simp only [mine, true_and]
    split <;> split <;> split <;> omega
  · rw [if_neg mine] at next
    refine ⟨by omega, fun n => ?_⟩
    rw [uses, next, h.once]
    simp only [mine, false_and, if_false, Nat.add_zero]

/-- **Every move keeps the nonces.** -/
theorem move (h : Nonces w first r ds) (m : Move s r d r') : Nonces w first r' (ds ++ d.toList) := by
  cases m with
  | rest | queue | pace | join | conclude => exact h.keep (fun n => by simp) rfl
  | abort => exact h.keep (fun n => by simp [Run.abort]) rfl
  | enter =>
    refine h.keep (fun n => ?_) rfl
    simp only [uses, accepted, lost, count_filterMap_concat, Run.jobs_beginDispatch, Array.countP_push]
    simp [Action.accepts?, Action.loses?, Stage.sends]
  | @quote _ endpoint worker _ _ here =>
    refine h.keep (fun n => ?_) rfl
    have moved := uses_of_set here (.quoting endpoint worker) ds none w n
    simpa [Stage.sends] using moved
  | @assemble i endpoint worker _ st account _ _ t _ _ here early sender assembled =>
    refine h.spend sender rfl fun n => ?_
    have moved := uses_of_set here (.sending endpoint worker t) ds (some (.assembled i worker t)) w n
    rw [Stage.sends_of_isUnassembled early] at moved
    simpa [Stage.sends, Action.accepts?, Action.loses?, nonce_of_assemble assembled] using moved
  | @fail i cursor st loss workers e _ _ here spends =>
    cases spends with
    | nothing early =>
      refine h.keep (fun n => ?_) rfl
      have moved := uses_of_set here (.failed e) ds (some (.failed i none e)) w n
      rw [Stage.sends_of_isUnassembled early] at moved
      simpa [Stage.sends, Action.accepts?, Action.loses?] using moved
    | @unsigned _ v account early sender =>
      refine h.spend sender rfl fun n => ?_
      have moved := uses_of_set here (.failed e) ds (some (.failed i (some (v, account.nextNonce)) e)) w n
      rw [Stage.sends_of_isUnassembled early] at moved
      simpa [Stage.sends, Action.accepts?, Action.loses?] using moved
    | @refused endpoint v t =>
      refine h.keep (fun n => ?_) rfl
      have moved := uses_of_set here (.failed e) ds (some (.failed i (some (v, t.nonce)) e)) w n
      simpa [Stage.sends, Action.accepts?, Action.loses?] using moved
  | @submit i endpoint worker t _ here =>
    refine h.keep (fun n => ?_) rfl
    have moved := uses_of_set here (.submitted ⟨i, endpoint, worker, t, r.now⟩) ds
      (some (.submitted i ⟨i, endpoint, worker, t, r.now⟩)) w n
    simpa [Stage.sends, Action.accepts?, Action.loses?] using moved
  | @watch _ p here =>
    refine h.keep (fun n => ?_) rfl
    have moved := uses_of_set here (.watching p) ds none w n
    simpa [Stage.sends] using moved
  | @breakOff _ p here =>
    refine h.keep (fun n => ?_) rfl
    have moved := uses_of_set here (.broken p) ds none w n
    simpa [Stage.sends] using moved
  | @close i p v _ here =>
    refine h.keep (fun n => ?_) (nonce_modify _ _ (nextNonce_charge p v) _)
    have moved := uses_of_set here (.closed p v) ds (some (.closed i p v)) w n
    simpa [Stage.sends, Action.accepts?, Action.loses?] using moved

theorem after (s : Setup) (pool : Pool) (registry : Registry) (now : Nat) (events : List Event) (w : Nat) :
    Nonces w (nonce registry.workers w) ((Run.start s pool registry now).after s events)
      ((Run.start s pool registry now).trace s events) :=
  Run.after_induction (start s pool registry now) (fun h m => h.move m) events

end Nonces

/-- Without a dispatch that is dispatching nothing is about to be sent. -/
theorem countP_sends_of_idle {r : Run} (idle : r.tally .dispatching = 0) (w n : Nat) :
    r.jobs.countP (Stage.sends w n) = 0 := by
  have le : r.jobs.countP (Stage.sends w n) ≤ r.tally .dispatching := by
    refine Array.countP_mono_left fun st _ sends => ?_
    cases st <;> first | rfl | cases sends
  omega

end TxLoad.Dispatch
