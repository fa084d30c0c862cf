import TxLoad.Proofs.Funding.Tasks
import Mathlib.Data.List.Perm.Subperm

/-!
# Transfers come to an end

Where endpoints answer, playing transfers ends, and then every transfer is over: a turn keeps the simulation going and
costs at least one of the turns that are left (`Going.turn`), and when no turn is left, nothing can go on
(`Going.over_of_stuck`). The turns that a simulation is given are enough (`play_over`).
-/

namespace TxLoad.Funding

open Network (Net Endpoint)

/-- A simulation goes on while nobody is busy, and has at most `n` turns left. -/
structure Underway (s : Setup) (n : Nat) (h : Simulation) : Prop extends Going s h none where
  weight : h.weight ≤ n

theorem Underway.mono {s : Setup} {h : Simulation} {n m : Nat} (u : Underway s n h) (le : n ≤ m) : Underway s m h :=
  ⟨u.toGoing, Nat.le_trans u.weight le⟩

namespace Going

variable {s : Setup} {h : Simulation} {k : Nat} {a b : Stage} {e : Event}

/-- A transfer that is over, or that an event put into the queue, cannot go on. -/
theorem not_moving_of_transition {f f' : Funder} (orderly : Orderly f) (here : f.stage? k = some a)
    (p : Transition s f k a b f') (still : b.isDone ∨ b.isQueued) : ¬f'.Moving k := by
  rintro ⟨st, there, open_, holder⟩
  rw [p.stage? here, if_pos rfl] at there
  cases there
  rcases still with finished | queued
  · rw [open_] at finished
    cases finished
  · have mine := holder queued
    cases p with
    | line comes early taken keeps =>
      obtain ⟨st, there, known⟩ := orderly.holds k (keeps.symm.trans mine)
      cases here.symm.trans there
      cases a with
      | requested | quoting => rcases known with known | known <;> cases known
      | _ => cases early
    | ask | drop | sign | refuse | accept | reject | reread | receive | lapse => cases queued

theorem not_moving_of_done {f : Funder} {r : Except Failure Confirmation} (finished : f.stage? k = some (.done r)) :
    ¬f.Moving k := by
  rintro ⟨st, there, open_, -⟩
  cases finished.symm.trans there
  cases open_

/-- An event that ends the busy transfer leaves nobody busy. -/
theorem finish (g : Going s h (some k)) (here : h.funder.stage? k = some a)
    (p : Transition s h.funder k a b (h.funder.step s e)) (finished : b.isDone) : Underway s h.weight (h.event s k e) := by
  obtain ⟨after, cost⟩ := g.event here p (.inl rfl)
  refine ⟨after.rest ?_, Nat.le_trans (Nat.le_add_right ..) cost⟩
  rw [Simulation.funder_event]
  exact not_moving_of_transition g.orderly here p (.inl finished)

/-! ## The end of a transfer -/

/-- The answer to the wait of a transfer that is not busy keeps the simulation going. -/
theorem takeAnswered (g : Going s h none) (endpoint : Nat) (t : SignedTransaction)
    (answer : Except Failure Confirmation) : Underway s h.weight (h.takeAnswered s k endpoint t answer) := by
  unfold Simulation.takeAnswered
  split
  · next o u since here =>
    let noted : Simulation := { h with net := h.net.finish endpoint h.now (.watched answer.isOk t) }
    have g : Going s noted none := g.net (g.served.finish _ _ _)
    show Underway s noted.weight (noted.event s k (.answered k answer))
    rcases Funder.transition_step s noted.funder (e := .answered k answer) rfl with same | ⟨a, b, there, p⟩
    · rw [Simulation.event_of_same same]
      exact ⟨g, Nat.le_refl _⟩
    · cases here.symm.trans there
      have finished : ∃ r, b = .done r := by
        cases p with
        | receive | lapse => exact ⟨_, rfl⟩
        | drop comes lock early | line comes early => cases early
        | sign comes may | refuse comes may => rcases may with ⟨early, -⟩ | ⟨queued, -⟩ <;> contradiction
      obtain ⟨after, cost⟩ := g.event here p (.inr ⟨rfl, ⟨o, u, since, rfl⟩, finished⟩)
      exact ⟨after, Nat.le_trans (Nat.le_add_right ..) cost⟩
  · exact ⟨g, Nat.le_refl _⟩

/-- An answer that is there at once ends the busy transfer. -/
theorem takeAnswered_of_busy (g : Going s h (some k)) {o : Offer} {u : SignedTransaction}
    (here : h.funder.stage? k = some (.awaiting o u h.funder.now)) (endpoint : Nat) (t : SignedTransaction)
    (answer : Except Failure Confirmation) : Underway s h.weight (h.takeAnswered s k endpoint t answer) := by
  unfold Simulation.takeAnswered
  rw [here]
  let noted : Simulation := { h with net := h.net.finish endpoint h.now (.watched answer.isOk t) }
  have g : Going s noted (some k) := g.net (g.served.finish _ _ _)
  obtain ⟨r, p⟩ := Funder.transition_answered (s := s) here (Nat.le_add_right ..) answer
  exact g.finish (h := noted) here p rfl

/-- The deadline of the busy transfer comes at once, or is put off. -/
theorem wait (g : Going s h (some k)) {o : Offer} {u : SignedTransaction}
    (here : h.funder.stage? k = some (.awaiting o u h.funder.now)) :
    Underway s (h.weight + 2)
      (if s.patience = 0 then h.event s k (.expired k) else h.putOff (Wait.bounded s.patience) (.expired k)) := by
  split
  · next none =>
    have due : s.deadline h.funder.now ≤ h.funder.now := by
      unfold Setup.deadline Wait.till Wait.bounded
      omega
    exact (g.finish here (Funder.transition_expired here due) rfl).mono (Nat.le_add_right ..)
  · refine ⟨g.putOff rfl ?_, Nat.le_of_eq (weight_putOff ..)⟩
    rintro j ⟨⟩
    refine ⟨_, here, ?_⟩
    exact Nat.le_of_eq (congrArg (· + Wait.bounded s.patience) g.clock)

/-- Beginning to wait for a receipt costs at most four turns. -/
theorem watch (g : Going s h (some k)) {o : Offer} {u : SignedTransaction}
    (here : h.funder.stage? k = some (.awaiting o u h.funder.now)) : Underway s (h.weight + 4) (h.watch s k) := by
  unfold Simulation.watch
  rw [here]
  dsimp only
  generalize asked : h.net.ask o.endpoint (·.watch u) = call
  obtain ⟨answer, net⟩ := call
  have served : net.Serves h.funder.pool.good := by
    have := g.served.ask (Endpoint.modest_watch u) o.endpoint
    rwa [asked] at this
  have g : Going s { h with net := net } (some k) := g.net served
  dsimp only
  split
  · exact (g.wait here).mono (Nat.add_le_add_left (by decide) _)
  · next result _ =>
    split
    · exact (g.takeAnswered_of_busy here _ _ _).mono (Nat.le_add_right ..)
    · let later := Simulation.putOff { h with net := net } answer.delay (.answered k o.endpoint u result)
      have later : Going s later (some k) := g.putOff_other rfl
      refine (later.wait here).mono ?_
      rw [weight_putOff]
      exact Nat.le_refl _

/-- The nonce that was read again ends the busy transfer. -/
theorem takeResynced (g : Going s h (some k)) {o : Offer} {e : Failure}
    (here : h.funder.stage? k = some (.resyncing o e)) (endpoint : Nat) (address : Address)
    (answer : Except Failure Nat) : Underway s h.weight (h.takeResynced s k endpoint address answer) := by
  let noted : Simulation := { h with net := h.net.finish endpoint h.now (.askedNonce address) }
  have g : Going s noted (some k) := g.net (g.served.finish _ _ _)
  exact g.finish (h := noted) here (Funder.transition_resynced (f := noted.funder) here answer) rfl

/-- Reading the nonce again costs two turns. -/
theorem resync (g : Going s h (some k)) {o : Offer} {e : Failure} (here : h.funder.stage? k = some (.resyncing o e))
    {endpoint : Nat} (good : endpoint ∈ h.funder.pool.good) : Underway s (h.weight + 2) (h.resync s k endpoint) := by
  unfold Simulation.resync
  dsimp only
  generalize h.funder.registry.funding.address = address
  have answered := g.served.answered good (Endpoint.answered_askNonce address)
  have served := g.served.ask (Endpoint.modest_askNonce address) endpoint
  generalize h.net.ask endpoint (·.askNonce address) = call at answered served ⊢
  obtain ⟨answer, net⟩ := call
  obtain ⟨result, answered⟩ := answered
  have g : Going s { h with net := net } (some k) := g.net served
  dsimp only at answered ⊢
  rw [answered]
  dsimp only
  split
  · exact (g.takeResynced here _ _ _).mono (Nat.le_add_right ..)
  · refine ⟨g.putOff rfl ?_, Nat.le_of_eq (weight_putOff ..)⟩
    rintro j ⟨⟩
    exact ⟨_, here, trivial⟩

/-! ## The submission of a transfer -/

/-- The endpoint's answer to a submission is paid for by the submission. -/
theorem takeSent (g : Going s h (some k)) {o : Offer} {u : SignedTransaction}
    (here : h.funder.stage? k = some (.sending o u)) {endpoint : Nat} (good : endpoint ∈ h.funder.pool.good)
    (t : SignedTransaction) (answer : Except Failure Unit) :
    Underway s h.weight (h.takeSent s k endpoint t answer) := by
  let noted : Simulation := { h with net := h.net.finish endpoint h.now (.sent answer.isOk t) }
  have g : Going s noted (some k) := g.net (g.served.finish _ _ _)
  obtain ⟨b, p, next⟩ := Funder.transition_sent (f := noted.funder) (s := s) here answer
  obtain ⟨after, cost⟩ := g.event here p (.inl rfl)
  have there : (noted.event s k (.sent k answer)).funder.stage? k = some b := by
    rw [Simulation.funder_event, p.stage? here, if_pos rfl]
  have still : (noted.event s k (.sent k answer)).funder.pool.good = noted.funder.pool.good ∧
      (noted.event s k (.sent k answer)).funder.now = noted.funder.now := by
    rw [Simulation.funder_event, p.pool, p.now]
    exact ⟨rfl, rfl⟩
  unfold Simulation.takeSent
  dsimp only
  change (Simulation.event s _ k (.sent k answer)).funder.stage? k = some b at there
  rw [there]
  rcases next with rfl | ⟨e, rfl⟩
  · rw [← still.2] at there
    exact (after.watch there).mono cost
  · refine (after.resync there ?_).mono cost
    rw [still.1]
    exact good

/-- A transfer that has come to its submission submits its transaction; one that cannot go on does nothing. -/
theorem submit (g : Going s h (some k)) (here : h.funder.stage? k = some b)
    (next : (∃ o t, b = .sending o t) ∨ ¬h.funder.Moving k) : Underway s (h.weight + b.debt) (h.submit s k) := by
  by_cases sending : ∃ o t, b = .sending o t
  · obtain ⟨o, t, rfl⟩ := sending
    have good : o.endpoint ∈ h.funder.pool.good := g.placed k _ _ here rfl
    have answered := g.served.answered good (Endpoint.answered_submit t)
    have served := g.served.ask (Endpoint.modest_submit t) o.endpoint
    unfold Simulation.submit
    rw [here]
    dsimp only
    generalize h.net.ask o.endpoint (·.submit t) = call at answered served ⊢
    obtain ⟨answer, net⟩ := call
    obtain ⟨result, answered⟩ := answered
    have g : Going s { h with net := net } (some k) := g.net served
    dsimp only at answered ⊢
    rw [answered]
    dsimp only
    split
    · exact (g.takeSent here good _ _).mono (Nat.le_add_right ..)
    · refine ⟨g.putOff rfl ?_, Nat.le_of_eq (weight_putOff ..)⟩
      rintro j ⟨⟩
      exact ⟨_, here, rfl⟩
  · have unchanged : h.submit s k = h := by
      unfold Simulation.submit
      rw [here]
      split
      · next o t same =>
        cases same
        exact absurd ⟨o, t, rfl⟩ sending
      · rfl
    rw [unchanged]
    exact ⟨g.rest (next.resolve_left sending), Nat.le_add_right ..⟩

/-- The endpoint's answer about fees is paid for by the question. -/
theorem takeQuoted (g : Going s h (some k)) {i : Nat} (here : h.funder.stage? k = some (.quoting i)) (endpoint : Nat)
    (answer : Except Failure (Nat × Nat)) : Underway s h.weight (h.takeQuoted s k endpoint answer) := by
  let noted : Simulation := { h with net := h.net.finish endpoint h.now .askedFees }
  have g : Going s noted (some k) := g.net (g.served.finish _ _ _)
  obtain ⟨b, p, next⟩ := Funder.transition_quoted (f := noted.funder) (s := s) here answer
  obtain ⟨after, cost⟩ := g.event here p (.inl rfl)
  have there : (noted.event s k (.quoted k answer)).funder.stage? k = some b := by
    rw [Simulation.funder_event, p.stage? here, if_pos rfl]
  refine (after.submit there ?_).mono cost
  rw [Simulation.funder_event]
  rcases next with finished | queued | sending
  · exact .inr (not_moving_of_transition g.orderly here p (.inl finished))
  · exact .inr (not_moving_of_transition g.orderly here p (.inr queued))
  · exact .inl sending

/-- A transfer that has to know the fees asks for them; otherwise it submits its transaction, if it has come so far. -/
theorem quote (g : Going s h (some k)) (here : h.funder.stage? k = some b)
    (next : (∃ i, b = .quoting i) ∨ (∃ o t, b = .sending o t) ∨ ¬h.funder.Moving k) :
    Underway s (h.weight + b.debt) (h.quote s k) := by
  by_cases asks : ∃ i, b = .quoting i
  · obtain ⟨i, rfl⟩ := asks
    have good : i ∈ h.funder.pool.good := g.placed k _ _ here rfl
    have answered := g.served.answered good Endpoint.answered_askFees
    have served := g.served.ask Endpoint.modest_askFees i
    unfold Simulation.quote
    rw [here]
    dsimp only
    generalize h.net.ask i Endpoint.askFees = call at answered served ⊢
    obtain ⟨answer, net⟩ := call
    obtain ⟨result, answered⟩ := answered
    have g : Going s { h with net := net } (some k) := g.net served
    dsimp only at answered ⊢
    rw [answered]
    dsimp only
    split
    · exact (g.takeQuoted here _ _).mono (Nat.le_add_right ..)
    · refine ⟨g.putOff rfl ?_, Nat.le_of_eq (weight_putOff ..)⟩
      rintro j ⟨⟩
      exact ⟨_, here, trivial⟩
  · have onward : h.quote s k = h.submit s k := by
      unfold Simulation.quote
      rw [here]
      split
      · next i same =>
        cases same
        exact absurd ⟨i, rfl⟩ asks
      · rfl
    rw [onward]
    exact g.submit here (next.resolve_left asks)

/-! ## Turns -/

/-- A task that is taken from the scheduler makes its transfer busy. -/
theorem pop (g : Going s h none) {t : Task} {rest : List Task} (ready : h.scheduler.ready = t :: rest) :
    Going s { h with scheduler := { h.scheduler with ready := rest } } t.carries? := by
  have load : Simulation.load { h with scheduler := { h.scheduler with ready := rest } } t.carries? = h.load none := by
    unfold Simulation.load Scheduler.tasks
    rw [ready]
    cases carries : t.carries? <;> simp [carries]
  refine ⟨⟨g.clock, g.later, g.orderly, g.placed, fun p entry => g.fits p ?_, g.parked, ?_, fun j moving => ?_⟩,
    g.window, g.served⟩
  · rw [Scheduler.mem_entries] at entry ⊢
    rcases entry with ⟨now, mem⟩ | waiting
    · exact .inl ⟨now, by rw [ready]; exact List.mem_cons_of_mem _ mem⟩
    · exact .inr waiting
  · rw [load]
    exact g.once
  · rw [load]
    exact g.carried j moving

/-- **What a task is woken up for keeps the simulation going**, and is paid for. -/
theorem perform {t : Task} (g : Going s h t.carries?) (fits : t.Fits s h.funder h.scheduler.now) :
    Underway s h.weight (h.perform s t) := by
  cases t with
  | begin k =>
    obtain ⟨st, here, suits⟩ := fits k rfl
    obtain rfl : st = .requested := by cases st <;> first | rfl | exact suits.elim
    obtain ⟨b, p, next⟩ := Funder.transition_begin (s := s) here
    obtain ⟨after, cost⟩ := g.event here p (.inl rfl)
    have there : (h.event s k (.begin k)).funder.stage? k = some b := by
      rw [Simulation.funder_event, p.stage? here, if_pos rfl]
    refine (after.quote there ?_).mono cost
    rw [Simulation.funder_event]
    rcases next with finished | queued | asks | sending
    · exact .inr (.inr (not_moving_of_transition g.orderly here p (.inl finished)))
    · exact .inr (.inr (not_moving_of_transition g.orderly here p (.inr queued)))
    · exact .inl asks
    · exact .inr (.inl sending)
  | quoted k endpoint answer =>
    obtain ⟨st, here, suits⟩ := fits k rfl
    cases st with
    | quoting i => exact g.takeQuoted here endpoint answer
    | _ => exact suits.elim
  | granted k =>
    obtain ⟨st, here, suits⟩ := fits k rfl
    cases st with
    | queued o =>
      obtain ⟨b, p, next⟩ := Funder.transition_granted (s := s) here suits
      obtain ⟨after, cost⟩ := g.event here p (.inl rfl)
      have there : (h.event s k (.granted k)).funder.stage? k = some b := by
        rw [Simulation.funder_event, p.stage? here, if_pos rfl]
      refine (after.submit there ?_).mono cost
      rw [Simulation.funder_event]
      rcases next with finished | ⟨t, sending⟩
      · exact .inr (not_moving_of_transition g.orderly here p (.inl finished))
      · exact .inl ⟨o, t, sending⟩
    | _ => exact suits.elim
  | sent k endpoint t answer =>
    obtain ⟨st, here, suits⟩ := fits k rfl
    cases st with
    | sending o u =>
      have good : o.endpoint ∈ h.funder.pool.good := g.placed k _ _ here rfl
      rw [show o.endpoint = endpoint from suits] at good
      exact g.takeSent here good t answer
    | _ => exact suits.elim
  | resynced k endpoint address answer =>
    obtain ⟨st, here, suits⟩ := fits k rfl
    cases st with
    | resyncing o e => exact g.takeResynced here endpoint address answer
    | _ => exact suits.elim
  | answered k endpoint t answer => exact g.takeAnswered endpoint t answer
  | expired k =>
    obtain ⟨st, here, suits⟩ := fits k rfl
    cases st with
    | awaiting o u since =>
      have due : s.deadline since ≤ h.funder.now := by
        rw [g.clock]
        exact suits
      exact g.finish here (Funder.transition_expired here due) rfl
    | done r =>
      have same : h.funder.step s (.expired k) = h.funder := by
        rcases Funder.transition_step s h.funder (e := .expired k) rfl with same | ⟨a, b, there, p⟩
        · exact same
        · cases here.symm.trans there
          cases p.onward
      show Underway s h.weight (h.event s k (.expired k))
      rw [Simulation.event_of_same same]
      exact ⟨g.rest (not_moving_of_done here), Nat.le_refl _⟩
    | _ => exact suits.elim

/-- When the clock moves, what is carried is carried on. -/
theorem pass (g : Going s h none) {time : Nat} (later : h.scheduler.now ≤ time) : Going s (h.pass s time) none := by
  have tasks : ((h.pass s time).load none).Perm (h.load none) :=
    List.Perm.append_right _ ((h.scheduler.tasks_advance time).filterMap _)
  have clock : (h.funder.step s (.pass time)).now = time := by
    show max h.funder.now time = time
    rw [g.clock]
    exact Nat.max_eq_right later
  refine ⟨⟨clock, fun p mem => ?_, g.orderly.step s (.pass time), g.placed.step s (.pass time), fun p entry => ?_,
    g.parked,
    tasks.nodup_iff.2 g.once, fun j moving => tasks.mem_iff.2 (g.carried j moving)⟩, g.window, g.served⟩
  · exact Nat.le_of_lt (Scheduler.lt_of_mem_waiting_advance mem)
  · have old (due : Nat) (mem : (due, p.2) ∈ h.scheduler.entries) (le : due ≤ p.1) :
        p.2.Fits s (h.funder.step s (.pass time)) p.1 :=
      ((g.fits _ mem).later le).frame (fun _ _ => rfl) fun _ _ => id
    rcases Scheduler.mem_entries.1 entry with ⟨now, ready⟩ | waiting
    · rw [show (h.pass s time).scheduler.ready = _ from h.scheduler.ready_advance time] at ready
      rcases List.mem_append.1 ready with ready | due
      · refine old h.scheduler.now (Scheduler.mem_entries.2 (.inl ⟨rfl, ready⟩)) ?_
        rw [now]
        exact later
      · obtain ⟨q, mem, same⟩ := List.mem_map.1 due
        obtain ⟨mem, le⟩ := List.mem_filter.1 mem
        rw [← same] at old ⊢
        refine old q.1 (Scheduler.mem_entries.2 (.inr mem)) ?_
        rw [now]
        exact of_decide_eq_true le
    · exact old p.1 (Scheduler.mem_entries.2 (.inr (List.mem_of_mem_filter waiting))) (Nat.le_refl _)

/-- When the clock moves to what is due, turns are saved. -/
theorem weight_pass {time : Nat} {p : Nat × Task} (mem : p ∈ h.scheduler.waiting) (due : p.1 ≤ time) :
    (h.pass s time).weight + 1 ≤ h.weight := by
  have total := h.scheduler.length_advance time
  have fewer : (h.scheduler.advance time).waiting.length < h.scheduler.waiting.length := by
    refine List.length_filter_lt_length_iff_exists.2 ⟨p, mem, ?_⟩
    simpa using due
  have advanced : (h.pass s time).weight = (h.scheduler.advance time).ready.length +
      2 * (h.scheduler.advance time).waiting.length + h.funder.queue.length + h.backlog.length +
      h.funder.sumOver Stage.ahead := rfl
  rw [advanced]
  unfold Simulation.weight
  omega

/-- **A turn keeps the simulation going, and costs one of the turns that are left.** -/
theorem turn (g : Going s h none) {h' : Simulation} (turned : h.turn s none = some h') :
    Going s h' none ∧ h'.weight + 1 ≤ h.weight := by
  unfold Simulation.turn at turned
  split at turned
  · cases turned
  · split at turned
    · next task scheduler next =>
      cases turned
      unfold Scheduler.next? at next
      split at next
      · cases next
      · next t rest ready =>
        cases next
        have fits := g.fits (h.scheduler.now, task) (Scheduler.mem_entries.2 (.inl ⟨rfl, by rw [ready]; exact List.mem_cons_self⟩))
        have u := (g.pop ready).perform fits
        have weight : h.weight = Simulation.weight { h with scheduler := { h.scheduler with ready := rest } } + 1 := by
          unfold Simulation.weight
          rw [ready]
          simp only [List.length_cons]
          omega
        exact ⟨u.toGoing, by rw [weight]; exact Nat.succ_le_succ u.weight⟩
    · next due _ soonest _ =>
      cases turned
      obtain ⟨mem, least⟩ := List.min?_eq_some_iff.1 soonest
      obtain ⟨p, waiting, rfl⟩ := List.mem_map.1 mem
      exact ⟨g.pass (g.later p waiting), weight_pass waiting (Nat.le_refl _)⟩
    · next limited => cases limited
    · cases turned

/-- **After enough turns no turn is left**, and the simulation still goes on. -/
theorem turns (g : Going s h none) {n : Nat} (enough : h.weight ≤ n) :
    Going s (h.turns s none n) none ∧ (h.turns s none n).turn s none = none := by
  induction n generalizing h with
  | zero =>
    refine ⟨g, ?_⟩
    rw [Option.eq_none_iff_forall_ne_some]
    intro h' turned
    obtain ⟨-, less⟩ := g.turn turned
    show False
    omega
  | succ n ih =>
    rw [Simulation.turns]
    split
    · next h' turned =>
      obtain ⟨next, less⟩ := g.turn turned
      exact ih next (by omega)
    · next stuck => exact ⟨g, stuck⟩

/-- A transfer that is not over can go on, or waits for another one that has begun and can go on. -/
theorem moving_or {f : Funder} (orderly : Orderly f) {st : Stage} (here : f.stage? k = some st)
    (open_ : st.isDone = false) : f.Moving k ∨ ∃ j, f.Moving j ∧ f.stage? j ≠ some .requested := by
  by_cases waits : st.isQueued ∧ f.holder ≠ some k
  · obtain ⟨queued, other⟩ := waits
    have inside : k ∈ f.queue := by
      cases st with
      | queued o => exact (orderly.listed k o here).resolve_right other
      | _ => cases queued
    cases holder : f.holder with
    | none =>
      rw [orderly.free holder] at inside
      cases inside
    | some j =>
      obtain ⟨st', there, known⟩ := orderly.holds j holder
      refine .inr ⟨j, ⟨st', there, ?_, fun _ => holder⟩, ?_⟩
      · cases st' <;> first | rfl | (rcases known with known | known <;> cases known)
      · intro requested
        cases there.symm.trans requested
        rcases known with known | known <;> cases known
  · refine .inl ⟨st, here, open_, fun queued => ?_⟩
    by_contra other
    exact waits ⟨queued, other⟩

/-- **When no turn is left, every transfer is over**, unless as many have ended as were asked for. -/
theorem over_of_stuck (g : Going s h none) (stuck : h.turn s none = none) (going : h.isOver = false) {st : Stage}
    (here : h.funder.stage? k = some st) : st.isDone := by
  have idle : h.scheduler.tasks = [] := by
    unfold Simulation.turn at stuck
    rw [going, if_neg Bool.false_ne_true] at stuck
    cases ready : h.scheduler.next? with
    | some next => rw [ready] at stuck; cases stuck
    | none =>
      cases due : h.scheduler.nextDue with
      | some time => rw [ready, due] at stuck; cases stuck
      | none => exact Scheduler.tasks_eq_nil ready due
  have load : h.load none = h.backlog := by
    unfold Simulation.load
    rw [idle]
    rfl
  -- what can go on is in the backlog, and has not begun
  have parked {j : Nat} (moving : h.funder.Moving j) : j ∈ h.backlog := by
    rw [← load]
    exact g.carried j moving
  have parked_of_open {j : Nat} {st : Stage} (there : h.funder.stage? j = some st) (open_ : st.isDone = false) :
      j ∈ h.backlog := by
    rcases moving_or g.orderly there open_ with moving | ⟨i, moving, begun⟩
    · exact parked moving
    · exact absurd (g.parked i (parked moving)) begun
  rw [← Bool.not_eq_false]
  intro open_
  obtain ⟨j, absent, st', there, open'⟩ := g.window (List.ne_nil_of_mem (parked_of_open here open_))
  exact absent (parked_of_open there open')

end Going

/-! ## From the request to the end -/

/-- **Nothing is under way**: every transfer is over, the lock is free, and nothing is committed. -/
structure Funder.Idle (f : Funder) : Prop where
  finished : ∀ k st, f.stage? k = some st → st.isDone
  free : f.holder = none
  queue : f.queue = []
  settled : f.committed = 0

namespace Funder

variable {s : Setup} {f : Funder} {k : Nat} {workers : List Nat}

/-- Requests add transfers. -/
theorem after_request (s : Setup) (f : Funder) (workers : List Nat) :
    f.after s (workers.map .request) =
      { f with transfers := f.transfers ++ (workers.map (Transfer.mk · .requested)).toArray } := by
  induction workers generalizing f with
  | nil => simp [after]
  | cons worker workers ih =>
    have first : f.after s ((worker :: workers).map .request) =
        { f with transfers := f.transfers.push ⟨worker, .requested⟩ }.after s (workers.map .request) := rfl
    rw [first, ih]
    simp

/-- The stages after requests. -/
theorem stage?_after_request (s : Setup) (f : Funder) (workers : List Nat) (k : Nat) :
    (f.after s (workers.map .request)).stage? k =
      if k < f.transfers.size then f.stage? k
      else if k < f.transfers.size + workers.length then some .requested else none := by
  rw [after_request]
  unfold stage?
  rw [Array.getElem?_append]
  split
  · rfl
  · rw [List.getElem?_toArray, List.getElem?_map, Option.map_map]
    split
    · rw [List.getElem?_eq_getElem (by omega)]
      rfl
    · rw [List.getElem?_eq_none (by omega)]
      rfl

theorem payees_after_request (s : Setup) (f : Funder) (workers : List Nat) :
    (f.after s (workers.map .request)).payees = f.payees ++ workers.toArray := by
  rw [after_request]
  simp [payees, Function.comp_def]

theorem sumOver_after_request (g : Stage → Nat) (s : Setup) (f : Funder) (workers : List Nat) :
    (f.after s (workers.map .request)).sumOver g = f.sumOver g + g .requested * workers.length := by
  rw [after_request]
  unfold sumOver
  simp [Function.comp_def, Nat.mul_comm]

/-- While nothing is under way, a transfer is over after requests, or it was requested. -/
theorem Idle.done_or_asked (idle : f.Idle) {a : Stage} (here : (f.after s (workers.map .request)).stage? k = some a) :
    a.isDone ∨ a = .requested ∧ k ∈ List.range' f.transfers.size workers.length := by
  rw [stage?_after_request] at here
  split at here
  · exact .inl (idle.finished k a here)
  · split at here
    · refine .inr ⟨(Option.some.inj here).symm, List.mem_range'_1.2 ?_⟩
      omega
    · cases here

/-- Of the transfers after requests only those that were requested end. -/
theorem Idle.mem_asked_of_ending (idle : f.Idle) {events : List Event} (asks : ∀ worker, .request worker ∉ events)
    {r : Except Failure Confirmation} (mem : (k, r) ∈ (f.after s (workers.map .request)).endings s events) :
    k ∈ List.range' f.transfers.size workers.length := by
  obtain ⟨before, finished⟩ := mem_endings.1 mem
  obtain ⟨a, here⟩ := (exists_stage_after asks).1 ⟨_, result?_eq_some.1 finished⟩
  rcases idle.done_or_asked here with done | ⟨-, mem⟩
  · cases a with
    | done r => cases before.symm.trans (result?_eq_some.2 here)
    | _ => cases done
  · exact mem

/-- While nothing is under way, the lock is in order. -/
theorem Idle.orderly (idle : f.Idle) : Orderly f where
  locked k st here sending := by
    have finished := idle.finished k st here
    cases st with
    | done r => cases sending
    | _ => cases finished
  free _ := idle.queue
  once := by
    rw [idle.queue]
    exact List.nodup_nil
  waits k mem := by
    rw [idle.queue] at mem
    cases mem
  listed k o here := by cases idle.finished k _ here
  holds k holder := by cases idle.free.symm.trans holder

/-- While nothing is under way, no transfer is at an endpoint. -/
theorem Idle.placed (idle : f.Idle) : Placed f := by
  intro k st i here picked
  have finished := idle.finished k st here
  cases st with
  | done r => cases picked
  | _ => cases finished

end Funder

namespace Simulation

variable {s : Setup} {net : Net} {f : Funder} {workers : List Nat} {window : Nat}

/-- All that is asked for is carried, or is in the backlog. -/
theorem load_ask (s : Setup) (net : Net) (f : Funder) (workers : List Nat) (window : Nat) :
    (ask s net f workers window).load none = List.range' f.transfers.size workers.length := by
  let asked := List.range' f.transfers.size workers.length
  have carried : ((asked.take window).map Task.begin).filterMap Task.carries? = asked.take window := by
    rw [List.filterMap_map]
    exact List.filterMap_some
  have load : (ask s net f workers window).load none =
      ((asked.take window).map Task.begin ++ []).filterMap Task.carries? ++ asked.drop window := rfl
  rw [load, List.append_nil, carried, List.take_append_drop]

/-- Transfers that are asked for while nothing is under way have to pay for all their turns. -/
theorem weight_ask (idle : f.Idle) : (ask s net f workers window).weight = 10 * workers.length := by
  have finished : f.sumOver Stage.ahead = 0 := by
    refine Funder.sumOver_eq_zero fun k st here => ?_
    have finished := idle.finished k st here
    cases st with
    | done r => rfl
    | _ => cases finished
  have ahead : (f.after s (workers.map .request)).sumOver Stage.ahead = 9 * workers.length := by
    rw [Funder.sumOver_after_request, finished, Nat.zero_add]
    rfl
  unfold Simulation.weight
  show ((List.range' f.transfers.size workers.length).take window |>.map Task.begin).length + 2 * 0 +
    (f.after s (workers.map .request)).queue.length +
    ((List.range' f.transfers.size workers.length).drop window).length +
    (f.after s (workers.map .request)).sumOver Stage.ahead = 10 * workers.length
  rw [ahead, Funder.after_request, idle.queue]
  simp
  omega

/-- **Transfers that are asked for while nothing is under way go on**, if some of them go on at once. -/
theorem going_ask (idle : f.Idle) (served : net.Serves f.pool.good) (room : 0 < window) :
    Going s (ask s net f workers window) none := by
  let start := f.after s (workers.map .request)
  let asked := List.range' f.transfers.size workers.length
  have requested {k : Nat} (mem : k ∈ asked) : start.stage? k = some .requested := by
    obtain ⟨low, high⟩ := List.mem_range'_1.1 mem
    rw [Funder.stage?_after_request, if_neg (Nat.not_lt.2 low), if_pos high]
  have once : asked.Nodup := List.nodup_range'
  have load : (ask s net f workers window).load none = asked := load_ask s net f workers window
  refine ⟨⟨rfl, nofun, ?orderly, ?placed, ?fits, ?parked, ?once, ?carried⟩, ?window, ?served⟩
  case orderly => exact idle.orderly.after s _
  case placed => exact Funder.after_kept (fun _ h => h.step s _) idle.placed
  case fits =>
    intro p entry
    obtain ⟨-, ready⟩ := (Scheduler.mem_entries.1 entry).resolve_right List.not_mem_nil
    obtain ⟨k, mem, task⟩ := List.mem_map.1 ready
    rw [← task]
    rintro j ⟨⟩
    exact ⟨_, requested (List.mem_of_mem_take mem), trivial⟩
  case parked => exact fun k mem => requested (List.mem_of_mem_drop mem)
  case once =>
    rw [load]
    exact once
  case carried =>
    rintro k ⟨st, here, open_, -⟩
    rw [load]
    rcases idle.done_or_asked here with finished | ⟨-, mem⟩
    · rw [finished] at open_
      cases open_
    · exact mem
  case window =>
    intro waits
    have more : window < workers.length := by
      by_contra few
      refine waits (List.drop_eq_nil_of_le ?_)
      rw [List.length_range']
      exact Nat.le_of_not_lt few
    have first : f.transfers.size ∉ asked.drop window := by
      rw [List.drop_range', List.mem_range'_1]
      omega
    refine ⟨f.transfers.size, first, .requested, requested ?_, rfl⟩
    exact List.mem_range'_1.2 ⟨Nat.le_refl _, by omega⟩
  case served =>
    have pool : start.pool = f.pool :=
      Funder.after_kept (P := fun g => g.pool = f.pool) (fun _ same => (Funder.pool_step _).trans same) rfl
    show net.Serves start.pool.good
    rw [pool]
    exact served

section Counted

variable {events : List Event} {h : Simulation} {k : Nat}
  (r : h.Recorded s (f.after s (workers.map .request)) (List.range' f.transfers.size workers.length) events)
include r

/-- Only transfers that were asked for are recorded, each of them once; when as many are recorded as were asked for,
all of them are. -/
theorem mem_ended_of_isOver (idle : f.Idle) (all : h.isOver) (asked : k ∈ List.range' f.transfers.size workers.length) :
    k ∈ h.ended := by
  have once : h.ended.Nodup := by
    rw [r.ended]
    exact Funder.endings_nodup ..
  have few : (List.range' f.transfers.size workers.length).length ≤ h.ended.length := by
    have counted : h.asked.length ≤ h.ended.length := of_decide_eq_true all
    rwa [r.asked] at counted
  have inside : h.ended ⊆ List.range' f.transfers.size workers.length := by
    intro j ended
    rw [r.ended] at ended
    obtain ⟨⟨j, res⟩, mem, rfl⟩ := List.mem_map.1 ended
    exact idle.mem_asked_of_ending r.noRequest mem
  exact ((once.subperm inside).perm_of_length_le few).symm.subset asked

/-- When as many transfers are recorded as were asked for, every transfer is over. -/
theorem done_of_isOver (idle : f.Idle) (all : h.isOver) {st : Stage} (here : h.funder.stage? k = some st) :
    st.isDone := by
  have result : ∃ res, h.funder.result? k = some res := by
    rw [r.funder] at here ⊢
    obtain ⟨a, before⟩ := (Funder.exists_stage_after r.noRequest).1 ⟨_, here⟩
    rcases idle.done_or_asked before with finished | ⟨-, asked⟩
    · cases a with
      | done res => exact ⟨res, Funder.result?_after (Funder.result?_eq_some.2 before) events⟩
      | _ => cases finished
    · have mem := mem_ended_of_isOver r idle all asked
      rw [r.ended] at mem
      obtain ⟨⟨j, res⟩, listed, rfl⟩ := List.mem_map.1 mem
      exact ⟨res, (Funder.mem_endings.1 listed).2⟩
  obtain ⟨res, finished⟩ := result
  cases here.symm.trans (Funder.result?_eq_some.1 finished)
  rfl

end Counted

/-- **Where endpoints answer, all transfers that are asked for come to an end**, however their calls are answered. -/
theorem play_over (idle : f.Idle) (served : net.Serves f.pool.good) (room : 0 < window) {k : Nat} {st : Stage}
    (here : ((ask s net f workers window).play s none).funder.stage? k = some st) : st.isDone := by
  let start := ask s net f workers window
  have enough : start.weight ≤ turnsPerTransfer * start.asked.length := by
    have asked : start.asked.length = workers.length := List.length_range'
    rw [weight_ask idle, asked]
    exact Nat.mul_le_mul_right _ (by decide)
  obtain ⟨going, stuck⟩ := (going_ask idle served room).turns enough
  change Going s (start.play s none) none at going
  cases counted : (start.play s none).isOver with
  | false => exact going.over_of_stuck stuck counted here
  | true =>
    obtain ⟨events, r⟩ := play_recorded s none start rfl
    exact done_of_isOver r idle counted here

end Simulation

end TxLoad.Funding
