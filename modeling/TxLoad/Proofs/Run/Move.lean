import TxLoad.Proofs.Run.Trace

/-!
# What a step of a run can do

`Move s r d r'` lists everything that one step can do to a run, with its action `d`: six moves of the admission loop, seven
of a dispatch and its watch, and a rest in which only the clock and the pool change.

- **Every step is a move** (`move_step`), whatever the event;
- **what every move keeps, every run keeps** (`after_induction`), told of the run and of its trace at once.

`Context.abandon`, `Context.submit` and the lemmas on `Pending.count` say what the moves of a dispatch do to the counts.
-/

namespace TxLoad.Dispatch

/-! ## The counts after a failure, a submission and a verdict -/

namespace Context

variable (o : Options) (c : Context) (e : Failure)

/-- The counts after a dispatch failed. -/
def abandon : Context :=
  let failed := { c with stats := c.stats.fail }
  let raised := match Run.stalled? o failed.stats.streak e with
    | some fatal => failed.raise fatal
    | none => failed
  (raised.finish false).release

@[simp] theorem counters_abandon : (c.abandon o e).counters = c.counters.finish false := by
  simp only [abandon]; split <;> rfl

@[simp] theorem gate_abandon : (c.abandon o e).gate = c.gate.release := by
  simp only [abandon]; split <;> rfl

@[simp] theorem stats_abandon : (c.abandon o e).stats = c.stats.fail := by
  simp only [abandon]; split <;> rfl

@[simp] theorem started_abandon : (c.abandon o e).started = c.started := by
  simp only [abandon]; split <;> rfl

theorem abandon_eq_release : ∃ c' : Context,
    c'.counters = c.counters.finish false ∧ c'.gate = c.gate ∧ c.abandon o e = c'.release := by
  simp only [abandon]
  split <;> refine ⟨_, ?_, ?_, rfl⟩ <;> rfl

/-- A failed dispatch raises a fatal failure when it is the last of enough in a row. -/
theorem fatal_abandon : (c.abandon o e).fatal =
    match Run.stalled? o (c.stats.streak + 1) e with
    | some fatal => c.fatal.raise fatal
    | none => c.fatal := by
  simp only [abandon, Stats.fail]
  split <;> rfl

/-- The counts after a submission. -/
def submit : Context := { c with stats := c.stats.submission }.finish true

end Context

namespace Pending

variable (p : Pending) (v : Verdict) (patience : Option Nat) (c : Context)

@[simp] theorem counters_count : (p.count v patience c).counters = c.counters := by cases v <;> rfl

@[simp] theorem gate_count : (p.count v patience c).gate = c.gate.release := by cases v <;> rfl

@[simp] theorem started_count : (p.count v patience c).started = c.started := by cases v <;> rfl

theorem stats_count : (p.count v patience c).stats =
    match v with
    | .settled r => (c.stats.pay r.totalFee).settle r.success
    | .lost _ => c.stats.lose
    | .expired => c.stats.expire := by
  cases v <;> rfl

@[simp] theorem failed_count : (p.count v patience c).stats.failed = c.stats.failed := by
  rw [stats_count]
  cases v with
  | settled r => cases success : r.success <;> simp [Stats.settle, Stats.pay, success]
  | lost | expired => rfl

@[simp] theorem streak_count : (p.count v patience c).stats.streak = c.stats.streak := by
  rw [stats_count]
  cases v with
  | settled r => cases success : r.success <;> simp [Stats.settle, Stats.pay, success]
  | lost | expired => rfl

theorem fatal_count : (p.count v patience c).fatal =
    match v with
    | .expired => c.fatal.raise (p.timeout patience)
    | _ => c.fatal := by
  cases v <;> rfl

/-- When a verdict can be given: an answer counts up to the deadline, and from the deadline on it is too late. -/
def IsDue (now : Nat) : Prop :=
  match v, p.deadline patience with
  | .expired, some deadline => deadline ≤ now
  | .expired, none => False
  | _, some deadline => now ≤ deadline
  | _, none => True

end Pending

/-! ## Moves -/

/-- What a failure costs: nothing before there is a transaction, unless the signature was what failed; afterwards the
nonce of the transaction. -/
inductive Spends (workers : Array Account) : Stage → Option (Nat × Nat) → Array Account → Prop
  | nothing {st : Stage} (early : st.isUnassembled) : Spends workers st none workers
  | unsigned {st : Stage} {w : Nat} {account : Account} (early : st.isUnassembled)
      (sender : workers[w]? = some account) :
      Spends workers st (some (w, account.nextNonce)) (workers.modify w fun _ => account.reserve)
  | refused {endpoint w : Nat} {t : SignedTransaction} :
      Spends workers (.sending endpoint w t) (some (w, t.nonce)) workers

/-- The loop may let a dispatch in through the gate that is left then. -/
def Run.Enters (r : Run) (gate : Gate) : Prop :=
  r.main = .acquiring ∧ r.context.gate.take? = some gate ∨ r.main = .waiting ∧ r.context.gate.receive? = some gate

/-- **Everything that one step of a run can do**, with its action. The log and the turns change as they like. -/
inductive Move (s : Setup) (r : Run) : Option Action → Run → Prop
  | rest {now : Nat} {pool : Pool} (later : r.now ≤ now) : Move s r none { r with now := now, pool := pool }
  | enter {gate : Gate} (calm : r.context.fatal.first = none) (enters : r.Enters gate) :
      Move s r (some (.admitted r.context.counters.nextIndex)) (r.beginDispatch s gate)
  | queue (calm : r.context.fatal.first = none) (main : r.main = .acquiring) (full : r.context.gate.take? = none) :
      Move s r none { r with main := .waiting, context := { r.context with gate := r.context.gate.wait } }
  | pace {till : Nat} (calm : r.context.fatal.first = none) (main : r.main = .pacing till) (due : till ≤ r.now) :
      Move s r none { r with main := r.paced s }
  | join {log : Array Log.Entry} (calm : r.context.fatal.first = none) (main : r.main = .joining)
      (idle : r.anyDispatching = false) : Move s r none { r with main := .confirming, log := log }
  | conclude {log : Array Log.Entry} (calm : r.context.fatal.first = none) (main : r.main = .confirming)
      (idle : r.anyTracking = false) :
      Move s r none { r with main := .returned (.ok (r.context.summary r.now)), log := log }
  | abort {e : Failure} (raised : r.context.fatal.first = some e) (running : r.result? = none) :
      Move s r none (r.abort e)
  | quote {i endpoint worker cursor : Nat} {pool : Pool} (here : r.jobs[i]? = some .admitted) :
      Move s r none
        { r with
          jobs := r.jobs.setIfInBounds i (.quoting endpoint worker)
          pool := pool
          registry := { r.registry with cursor := cursor } }
  | assemble {i endpoint worker cursor : Nat} {st : Stage} {account : Account} {payload : Payload} {quote : Fee.Quote}
      {t : SignedTransaction} {pool : Pool} {log : Array Log.Entry} (here : r.jobs[i]? = some st)
      (early : st.isUnassembled) (sender : r.registry.workers[worker]? = some account)
      (assembled : account.assemble payload quote = (account.reserve, .ok t)) :
      Move s r (some (.assembled i worker t))
        { r with
          jobs := r.jobs.setIfInBounds i (.sending endpoint worker t)
          pool := pool
          registry := ⟨r.registry.funding, r.registry.workers.modify worker fun _ => account.reserve, cursor⟩
          submissions := r.submissions.push (s.path, t)
          log := log }
  | fail {i cursor : Nat} {st : Stage} {loss : Option (Nat × Nat)} {workers : Array Account} {e : Failure} {pool : Pool}
      {log : Array Log.Entry} (here : r.jobs[i]? = some st) (spends : Spends r.registry.workers st loss workers) :
      Move s r (some (.failed i loss e))
        { r with
          context := r.context.abandon s.options e
          jobs := r.jobs.setIfInBounds i (.failed e)
          pool := pool
          registry := ⟨r.registry.funding, workers, cursor⟩
          log := log }
  | submit {i endpoint worker : Nat} {t : SignedTransaction} {log : Array Log.Entry}
      (here : r.jobs[i]? = some (.sending endpoint worker t)) :
      Move s r (some (.submitted i ⟨i, endpoint, worker, t, r.now⟩))
        { r with
          context := r.context.submit
          jobs := r.jobs.setIfInBounds i (.submitted ⟨i, endpoint, worker, t, r.now⟩)
          log := log }
  | watch {i : Nat} {p : Pending} (here : r.jobs[i]? = some (.submitted p))
      (told : p.isTellable s.options.patience = true) :
      Move s r none { r with jobs := r.jobs.setIfInBounds i (.watching p) }
  | breakOff {i : Nat} {p : Pending} (here : r.jobs[i]? = some (.submitted p))
      (untold : p.isTellable s.options.patience = false) :
      Move s r none { r with context := r.context.release, jobs := r.jobs.setIfInBounds i (.broken p) }
  | close {i : Nat} {p : Pending} {v : Verdict} {log : Array Log.Entry} (here : r.jobs[i]? = some (.watching p))
      (due : p.IsDue v s.options.patience r.now) :
      Move s r (some (.closed i p v))
        { r with
          context := p.count v s.options.patience r.context
          jobs := r.jobs.setIfInBounds i (.closed p v)
          registry := r.registry.modifyWorker p.worker (p.charge v)
          log := log }

namespace Run

variable {s : Setup} {r : Run}

/-! ## Steps of the admission loop -/

@[simp] theorem jobs_beginDispatch (gate : Gate) : (r.beginDispatch s gate).jobs = r.jobs.push .admitted := rfl

theorem main_beginDispatch (gate : Gate) : (r.beginDispatch s gate).main =
    if (r.beginDispatch s gate).isComplete s then .joining else (r.beginDispatch s gate).paced s := rfl

theorem resume_of_result {result : Except Failure Summary} (h : r.result? = some result) : r.resume s = r := by
  unfold result? at h
  split at h
  · next hm => simp [resume, hm]
  · cases h

/-- A fatal failure ends the loop wherever it stands. -/
theorem resume_of_raised {e : Failure} (running : r.result? = none) (raised : r.context.fatal.first = some e) :
    r.resume s = r.abort e := by
  unfold resume
  split
  · next hm => simp [result?, hm] at running
  · next hf _ => rw [raised] at hf; cases hf; rfl
  · next hf _ => rw [raised] at hf; cases hf

theorem resume_of_calm (running : r.result? = none) (calm : r.context.fatal.first = none) :
    r.resume s = r.advance s := by
  unfold resume
  split
  · next hm => simp [result?, hm] at running
  · next hf _ => rw [calm] at hf; cases hf
  · rfl

/-- A step of the admission loop is a move. -/
theorem move_resume : Move s r (r.action? s .resume) (r.resume s) := by
  have silent {r' : Run} (h : r.resume s = r') (same : r'.context.counters = r.context.counters) :
      r.action? s .resume = none := by
    simp [action?, Event.job?, step, h, same]
  cases running : r.result? with
  | some result =>
    have h := resume_of_result (s := s) running
    rw [silent h rfl, h]
    exact .rest (Nat.le_refl _)
  | none =>
    cases calm : r.context.fatal.first with
    | some e =>
      have h := resume_of_raised (s := s) running calm
      rw [silent h rfl, h]
      exact .abort calm running
    | none =>
      have h := resume_of_calm (s := s) running calm
      have enter {gate : Gate} (enters : r.Enters gate) (h' : r.advance s = r.beginDispatch s gate) :
          Move s r (r.action? s .resume) (r.resume s) := by
        have : r.action? s .resume = some (.admitted r.context.counters.nextIndex) := by
          simp [action?, Event.job?, step, h, h', beginDispatch, Context.begin, Counters.begin]
        rw [this, h, h']
        exact .enter calm enters
      have quiet {r' : Run} (m : Move s r none r') (h' : r.advance s = r')
          (same : r'.context.counters = r.context.counters) : Move s r (r.action? s .resume) (r.resume s) := by
        rw [silent (h.trans h') same, h, h']
        exact m
      have stay (h' : r.advance s = r) : Move s r (r.action? s .resume) (r.resume s) :=
        quiet (.rest (Nat.le_refl _)) h' rfl
      cases main : r.main with
      | acquiring =>
        cases take : r.context.gate.take? with
        | some gate => exact enter (.inl ⟨main, take⟩) (by simp [advance, main, take])
        | none => exact quiet (.queue calm main take) (by simp [advance, main, take]) rfl
      | waiting =>
        cases receive : r.context.gate.receive? with
        | some gate => exact enter (.inr ⟨main, receive⟩) (by simp [advance, main, receive])
        | none => exact stay (by simp [advance, main, receive])
      | pacing till =>
        by_cases due : till ≤ r.now
        · exact quiet (.pace calm main due) (by simp [advance, main, due]) rfl
        · exact stay (by simp [advance, main, due])
      | joining =>
        cases idle : r.anyDispatching with
        | true => exact stay (by simp [advance, main, idle])
        | false => exact quiet (.join calm main idle) (by simp [advance, main, idle, say]; rfl) rfl
      | confirming =>
        cases idle : r.anyTracking with
        | true => exact stay (by simp [advance, main, idle])
        | false => exact quiet (.conclude calm main idle) (by simp [advance, main, idle, Run.conclude, say]; rfl) rfl
      | returned result => simp [result?, main] at running

/-! ## Steps of a dispatch -/

/-- A run that is where another is; its pool, its turns and its log are its own, and it has the given workers. -/
structure Resembles (r₁ r : Run) (workers : Array Account) : Prop where
  now : r₁.now = r.now
  main : r₁.main = r.main
  context : r₁.context = r.context
  jobs : r₁.jobs = r.jobs
  funding : r₁.registry.funding = r.registry.funding
  workers : r₁.registry.workers = workers
  submissions : r₁.submissions = r.submissions

theorem Resembles.sayAll {r₁ : Run} {workers : Array Account} (like : r₁.Resembles r workers) (es : List Log.Entry) :
    (r₁.sayAll es).Resembles r workers :=
  ⟨like.now, like.main, like.context, like.jobs, like.funding, like.workers, like.submissions⟩

theorem abandon_eq (i : Nat) (rpc : Option String) (e : Failure) : r.abandon s i rpc e =
    { r with
      context := r.context.abandon s.options e
      jobs := r.jobs.setIfInBounds i (.failed e)
      log := (r.abandon s i rpc e).log } := by
  cases h : stalled? s.options r.context.stats.fail.streak e with
  | none => simp only [abandon, Context.abandon, h]; rfl
  | some fatal => simp only [abandon, Context.abandon, h]; rfl

theorem getElem?_reach {jobs : Array Stage} {i : Nat} {a : Stage} (here : jobs[i]? = some a) (b : Stage) :
    (jobs.setIfInBounds i b)[i]? = some b :=
  Array.getElem?_setIfInBounds_self_of_lt (Array.getElem?_eq_some_iff.1 here).1

theorem actionOf?_eq {r' : Run} {i : Nat} {a b : Stage} (here : r.jobs[i]? = some a)
    (there : r'.jobs = r.jobs.setIfInBounds i b) :
    r.actionOf? r' i = a.action? i (r.registry.reserved? r'.registry) b := by
  simp [actionOf?, here, there, getElem?_reach here]

/-- What a failure costs can be read off the stage and the workers. -/
theorem action?_of_spends {i : Nat} {st : Stage} {loss : Option (Nat × Nat)} {a b : Registry}
    (spends : Spends a.workers st loss b.workers) (e : Failure) :
    st.action? i (a.reserved? b) (.failed e) = some (.failed i loss e) := by
  generalize hb : b.workers = workers at spends
  cases spends with
  | nothing early =>
    rw [reserved?_of_workers_eq hb]
    cases st <;> first | rfl | cases early
  | unsigned early sender =>
    rw [reserved?_of_reserve sender hb]
    cases st <;> first | rfl | cases early
  | refused => rfl

/-- An account makes a transaction with its next nonce, or none. -/
theorem assemble_cases (a : Account) (p : Payload) (q : Fee.Quote) :
    (∃ e, a.assemble p q = (a, .error e)) ∨ (∃ e, a.assemble p q = (a.reserve, .error e)) ∨
      ∃ t, a.assemble p q = (a.reserve, .ok t) := by
  unfold Account.assemble
  split
  · exact .inl ⟨_, rfl⟩
  · cases (a.draft p q).sign a.key a.address with
    | error e => exact .inr (.inl ⟨e, rfl⟩)
    | ok t => exact .inr (.inr ⟨t, rfl⟩)

/-- Putting a worker back changes nothing. -/
theorem modify_self {workers : Array Account} {w : Nat} {account : Account} (h : workers[w]? = some account) :
    workers.modify w (fun _ => account) = workers := by
  apply Array.ext_getElem?
  intro v
  rw [Array.getElem?_modify]
  split
  · next hv => rw [← hv, h]; rfl
  · rfl

/-! ### What the steps of a dispatch come to -/

section Outcomes

variable {i endpoint worker : Nat} {pool : Pool} {registry : Registry} {account account' : Account} {payload : Payload}
  {quote : Fee.Quote} {t : SignedTransaction} {e : Failure}

theorem begin_of_unhealthy (here : r.jobs[i]? = some .admitted)
    (selected : r.pool.select s.options.endpointSelection i (s.draws i).endpoint = (.error e, pool)) :
    r.begin s i = { r with pool := pool }.abandon s i none e := by
  simp [begin, here, selected]

theorem begin_of_fees (here : r.jobs[i]? = some .admitted)
    (selected : r.pool.select s.options.endpointSelection i (s.draws i).endpoint = (.ok endpoint, pool))
    (picked : r.registry.pick s.options.walletSelection i (s.draws i).wallet = (worker, registry))
    (fees : s.overrides.quote? = some quote) :
    r.begin s i = { r with pool := pool, registry := registry }.price s i endpoint worker quote := by
  simp [begin, here, selected, picked, fees]

theorem begin_of_no_fees (here : r.jobs[i]? = some .admitted)
    (selected : r.pool.select s.options.endpointSelection i (s.draws i).endpoint = (.ok endpoint, pool))
    (picked : r.registry.pick s.options.walletSelection i (s.draws i).wallet = (worker, registry))
    (fees : s.overrides.quote? = none) :
    r.begin s i =
      { r with jobs := r.jobs.setIfInBounds i (.quoting endpoint worker), pool := pool, registry := registry } := by
  simp [begin, here, selected, picked, fees, reach]

theorem begin_of_other (other : r.jobs[i]? ≠ some .admitted) : r.begin s i = r := by
  unfold begin
  split
  · next here => exact absurd here other
  · rfl

theorem assemble_of_absent (absent : r.registry.workers[worker]? = none) :
    r.assemble s i endpoint worker quote = r.abandon s i (some (s.endpointName endpoint)) .noAccounts := by
  simp [assemble, absent]

theorem assemble_of_no_payload (sender : r.registry.workers[worker]? = some account)
    (failed : s.scenario.payload i account.address (s.draws i).value = .error e) :
    r.assemble s i endpoint worker quote =
      (r.sayAll (s.scenario.payloadLog i)).abandon s i (some (s.endpointName endpoint)) e := by
  simp [assemble, sender, failed]

theorem assemble_of_error (sender : r.registry.workers[worker]? = some account)
    (load : s.scenario.payload i account.address (s.draws i).value = .ok payload)
    (failed : account.assemble payload quote = (account', .error e)) :
    r.assemble s i endpoint worker quote =
      { r.sayAll (s.scenario.payloadLog i) with
        registry := r.registry.modifyWorker worker fun _ => account' }.abandon s i (some (s.endpointName endpoint)) e := by
  simp [assemble, sender, load, failed, sayAll]

theorem assemble_of_ok (sender : r.registry.workers[worker]? = some account)
    (load : s.scenario.payload i account.address (s.draws i).value = .ok payload)
    (signed : account.assemble payload quote = (account', .ok t)) :
    r.assemble s i endpoint worker quote =
      { r.sayAll (s.scenario.payloadLog i) with
        jobs := r.jobs.setIfInBounds i (.sending endpoint worker t)
        registry := r.registry.modifyWorker worker fun _ => account'
        submissions := r.submissions.push (s.path, t) } := by
  simp [assemble, sender, load, signed, reach, sayAll]

end Outcomes

/-! ### Moves -/

section Dispatches

variable {r₁ : Run} {i : Nat} {st : Stage} (here : r.jobs[i]? = some st)
include here

/-- Abandoning a dispatch is a move. -/
theorem move_abandon {loss : Option (Nat × Nat)} {workers : Array Account} (like : r₁.Resembles r workers)
    (spends : Spends r.registry.workers st loss workers) (rpc : Option String) (e : Failure) :
    Move s r (r.actionOf? (r₁.abandon s i rpc e) i) (r₁.abandon s i rpc e) := by
  have action : r.actionOf? (r₁.abandon s i rpc e) i = some (.failed i loss e) := by
    rw [actionOf?_eq here (by rw [abandon_eq, like.jobs]), action?_of_spends]
    rw [abandon_eq, like.workers]
    exact spends
  rw [action, abandon_eq]
  generalize (r₁.abandon s i rpc e).log = log
  obtain ⟨now, main, context, jobs, pool, ⟨funding, workers', cursor⟩, submissions, log'⟩ := r₁
  obtain ⟨rfl, rfl, rfl, rfl, rfl, rfl, rfl⟩ := like
  exact .fail here spends

/-- Building the transaction of a dispatch is a move. -/
theorem move_assemble (like : r₁.Resembles r r.registry.workers) (early : st.isUnassembled) (endpoint worker : Nat)
    (quote : Fee.Quote) :
    Move s r (r.actionOf? (r₁.assemble s i endpoint worker quote) i) (r₁.assemble s i endpoint worker quote) := by
  cases sender : r.registry.workers[worker]? with
  | none =>
    rw [assemble_of_absent (by rw [like.workers, sender])]
    exact move_abandon here like (.nothing early) _ _
  | some account =>
    have sender₁ : r₁.registry.workers[worker]? = some account := by rw [like.workers, sender]
    cases load : s.scenario.payload i account.address (s.draws i).value with
    | error e =>
      rw [assemble_of_no_payload sender₁ load]
      exact move_abandon here (like.sayAll _) (.nothing early) _ _
    | ok payload =>
      rcases assemble_cases account payload quote with ⟨e, refused⟩ | ⟨e, unsigned⟩ | ⟨t, signed⟩
      · rw [assemble_of_error sender₁ load refused]
        refine move_abandon here ?_ (.nothing early) _ _
        exact ⟨like.now, like.main, like.context, like.jobs, like.funding,
          by simp [Registry.modifyWorker, like.workers, modify_self sender], like.submissions⟩
      · rw [assemble_of_error sender₁ load unsigned]
        refine move_abandon here ?_ (.unsigned early sender) _ _
        exact ⟨like.now, like.main, like.context, like.jobs, like.funding,
          by simp [Registry.modifyWorker, like.workers], like.submissions⟩
      · have h : r₁.assemble s i endpoint worker quote = _ := assemble_of_ok sender₁ load signed
        have action : r.actionOf? (r₁.assemble s i endpoint worker quote) i = some (.assembled i worker t) := by
          rw [actionOf?_eq here (by rw [h, like.jobs])]
          cases st <;> first | rfl | cases early
        rw [action, h]
        obtain ⟨now, main, context, jobs, pool, ⟨funding, workers', cursor⟩, submissions, log'⟩ := r₁
        obtain ⟨rfl, rfl, rfl, rfl, rfl, rfl, rfl⟩ := like
        exact .assemble here early sender signed

theorem move_price (like : r₁.Resembles r r.registry.workers) (early : st.isUnassembled) (endpoint worker : Nat)
    (quote : Fee.Quote) :
    Move s r (r.actionOf? (r₁.price s i endpoint worker quote) i) (r₁.price s i endpoint worker quote) := by
  exact move_assemble here (like.sayAll _) early endpoint worker quote.clamped

end Dispatches

theorem resembles_self : r.Resembles r r.registry.workers := ⟨rfl, rfl, rfl, rfl, rfl, rfl, rfl⟩

/-- A step that leaves a dispatch as it is does nothing. -/
theorem move_rest (i : Nat) : Move s r (r.actionOf? r i) r := by
  have action : r.actionOf? r i = none := by
    unfold actionOf?
    cases r.jobs[i]? <;> simp
  rw [action]
  exact .rest (Nat.le_refl _)

/-- The first step of a dispatch is a move. -/
theorem move_begin (i : Nat) : Move s r (r.actionOf? (r.begin s i) i) (r.begin s i) := by
  by_cases here : r.jobs[i]? = some .admitted
  · cases selected : r.pool.select s.options.endpointSelection i (s.draws i).endpoint with
    | mk answer pool =>
      cases answer with
      | error e =>
        have like : { r with pool := pool }.Resembles r r.registry.workers := ⟨rfl, rfl, rfl, rfl, rfl, rfl, rfl⟩
        rw [begin_of_unhealthy here selected]
        exact move_abandon here like (.nothing rfl) none e
      | ok endpoint =>
        cases picked : r.registry.pick s.options.walletSelection i (s.draws i).wallet with
        | mk worker registry =>
          have turns : registry = { r.registry with cursor := registry.cursor } := by
            obtain ⟨-, rfl⟩ := Prod.mk.inj picked
            rfl
          cases fees : s.overrides.quote? with
          | some quote =>
            rw [begin_of_fees here selected picked fees]
            refine move_price here ?_ rfl endpoint worker quote
            exact ⟨rfl, rfl, rfl, rfl, by rw [turns], by rw [turns], rfl⟩
          | none =>
            rw [begin_of_no_fees here selected picked fees, actionOf?_eq here rfl, turns]
            exact .quote here
  · rw [begin_of_other here]
    exact move_rest i

/-- An answer about fees is a move. -/
theorem move_quoted (i : Nat) (answer : Except Failure (Nat × Nat)) :
    Move s r (r.actionOf? (r.quoted s i answer) i) (r.quoted s i answer) := by
  unfold quoted
  split
  · next here =>
    cases answer with
    | error e => exact move_abandon here resembles_self (.nothing rfl) _ _
    | ok fees => exact move_price here resembles_self rfl _ _ _
  · exact move_rest i

/-- An answer to a submission is a move. -/
theorem move_sent (i : Nat) (answer : Except Failure Unit) :
    Move s r (r.actionOf? (r.sent s i answer) i) (r.sent s i answer) := by
  unfold sent
  split
  · next here =>
    cases answer with
    | error e => exact move_abandon here resembles_self .refused _ _
    | ok =>
      rw [actionOf?_eq here rfl]
      exact .submit here
  · exact move_rest i

/-- The start of a watch is a move. -/
theorem move_watch (i : Nat) : Move s r (r.actionOf? (r.watch s i) i) (r.watch s i) := by
  unfold watch
  split
  · next here =>
    split
    · next told =>
      rw [actionOf?_eq here rfl]
      exact .watch here told
    · next untold =>
      rw [actionOf?_eq here rfl]
      exact .breakOff here (by simpa using untold)
  · exact move_rest i

theorem move_close {i : Nat} {p : Pending} {v : Verdict} (here : r.jobs[i]? = some (.watching p))
    (due : p.IsDue v s.options.patience r.now) : Move s r (r.actionOf? (r.close s i p v) i) (r.close s i p v) := by
  rw [actionOf?_eq here rfl]
  exact .close here due

/-- An answer to a watch is a move. -/
theorem move_answered (i : Nat) (answer : Except Failure Confirmation) :
    Move s r (r.actionOf? (r.answered s i answer) i) (r.answered s i answer) := by
  unfold answered
  split
  · next p here =>
    split
    · next timely =>
      refine move_close here ?_
      unfold isTimely at timely
      unfold Pending.IsDue
      cases answer <;> cases h : p.deadline s.options.patience <;> simp_all [Verdict.ofAnswer]
    · exact move_rest i
  · exact move_rest i

/-- A deadline is a move. -/
theorem move_expired (i : Nat) : Move s r (r.actionOf? (r.expired s i) i) (r.expired s i) := by
  unfold expired
  split
  · next p here =>
    split
    · next deadline known =>
      split
      · next due => exact move_close here (by simpa [Pending.IsDue, known] using due)
      · exact move_rest i
    · exact move_rest i
  · exact move_rest i

/-! ## Every step, every run -/

/-- **Every step is a move with its action.** -/
theorem move_step (s : Setup) (r : Run) (e : Event) : Move s r (r.action? s e) (r.step s e) := by
  cases e with
  | resume => exact move_resume
  | begin i => exact move_begin i
  | quoted i answer => exact move_quoted i answer
  | sent i answer => exact move_sent i answer
  | watch i => exact move_watch i
  | answered i answer => exact move_answered i answer
  | expired i => exact move_expired i
  | refreshed checks =>
    have action : r.action? s (.refreshed checks) = none := by simp [action?, Event.job?, step]
    rw [action]
    exact .rest (Nat.le_refl _)
  | pass time =>
    simp only [action?, Event.job?, step]
    split
    · next can =>
      have later : r.now ≤ time := by
        simp only [canPass, Bool.and_eq_true, decide_eq_true_eq] at can
        exact can.1.1
      rw [if_neg (Nat.lt_irrefl _)]
      exact .rest later
    · rw [if_neg (Nat.lt_irrefl _)]
      exact .rest (Nat.le_refl _)

/-- **What holds at the start and is kept by every move holds along every run**, of the run and its trace. -/
theorem after_induction {P : Run → List Action → Prop} {s : Setup} {r : Run} (start : P r [])
    (move : ∀ {r ds d r'}, P r ds → Move s r d r' → P r' (ds ++ d.toList)) (events : List Event) :
    P (r.after s events) (r.trace s events) := by
  have along : ∀ (events : List Event) (r : Run) (ds : List Action), P r ds →
      P (r.after s events) (ds ++ r.trace s events) := by
    intro events
    induction events with
    | nil => intro r ds h; simpa [after, trace] using h
    | cons e events ih =>
      intro r ds h
      have next := ih _ _ (move h (move_step s r e))
      simpa [after, trace, List.append_assoc] using next
  simpa using along events r [] start

end Run

end TxLoad.Dispatch
