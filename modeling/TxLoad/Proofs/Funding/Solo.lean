import TxLoad.Proofs.Funding.Alone

/-!
# Playing one transfer

A simulation of one transfer goes from task to task: an answer comes in at once or is put off, and the clock moves when
nothing is ready.

- `Solo` says how far the transfer has come in a simulation, and what is still to be done;
- `Plays s k b x u`: whatever turns are still to come, at least `b` of them, transfer `k` comes to `u`;
- one lemma for each call (`Solo.watch`, `Solo.resync`, `Solo.submit`, `Solo.quote`), from the last one back to the
  first;
- **a transfer that is asked for while the lock is free comes to what the straight line says**
  (`transferAll_alone`).
-/

namespace TxLoad.Funding

open Network (Net Answer Endpoint)

/-! ## The simulation of one transfer -/

/-- **The simulation of one transfer**, with what is still to be done. -/
structure Solo (k w : Nat) (r : Registry) (c : Nat) (held : Bool) (st : Stage) (net : Net) (a : Scheduler Task)
    (x : Simulation) : Prop where
  funder : Stands k w r c a.now held st x.funder
  net : x.net = net
  scheduler : x.scheduler = a
  asked : x.asked = [k]
  backlog : x.backlog = []
  ended : x.ended = if st.isDone then [k] else []

/-- What a transfer has come to in a simulation. -/
def Simulation.outcome (x : Simulation) (k : Nat) : TransferOutcome :=
  ⟨x.funder.result? k, x.funder.registry, x.funder.committed, x.net⟩

/-- What the first transfer of a batch comes to. -/
def Funder.Batch.outcome (b : Funder.Batch) : TransferOutcome :=
  ⟨b.results.head?.join, b.funder.registry, b.funder.committed, b.net⟩

/-- **The turns that are still to come end in an outcome**, if there are at least `b` of them. -/
def Plays (s : Setup) (k b : Nat) (x : Simulation) (u : TransferOutcome) : Prop :=
  ∀ n, b ≤ n → (x.turns s none n).asked = [k] ∧ (x.turns s none n).outcome k = u

namespace Plays

variable {s : Setup} {k b b' : Nat} {x x' : Simulation} {u : TransferOutcome}

theorem mono (p : Plays s k b x u) (le : b ≤ b') : Plays s k b' x u := fun n enough => p n (Nat.le_trans le enough)

/-- A simulation that takes no more turns stays where it is. -/
theorem still (stuck : x.turn s none = none) (asked : x.asked = [k]) : Plays s k b x (x.outcome k) := by
  intro n _
  have same : x.turns s none n = x := by
    cases n with
    | zero => rfl
    | succ n =>
      unfold Simulation.turns
      rw [stuck]
  rw [same]
  exact ⟨asked, rfl⟩

theorem turn (turned : x.turn s none = some x') (p : Plays s k b x' u) : Plays s k (b + 1) x u := by
  intro n enough
  obtain ⟨m, rfl⟩ : ∃ m, n = m + 1 := ⟨n - 1, by omega⟩
  unfold Simulation.turns
  rw [turned]
  exact p m (by omega)

end Plays

namespace Solo

variable {s : Setup} {k w c b now : Nat} {r : Registry} {held : Bool} {st : Stage} {net : Net} {a : Scheduler Task}
  {x : Simulation} {u : TransferOutcome}

/-! ### Turns -/

/-- The simulation of a transfer that is over stays where it is. -/
theorem finished {result : Except Failure Confirmation} (h : Solo k w r c held (.done result) net a x) :
    Plays s k b x ⟨some result, r, c, net⟩ := by
  have all : x.isOver = true := by
    unfold Simulation.isOver
    rw [h.asked, h.ended]
    rfl
  have stuck : x.turn s none = none := by
    unfold Simulation.turn
    rw [all]
    rfl
  have same : x.outcome k = ⟨some result, r, c, net⟩ := by
    unfold Simulation.outcome
    rw [Funder.result?_eq_some.2 h.funder.stage?, h.funder.registry, h.funder.committed, h.net]
  rw [← same]
  exact .still stuck h.asked

theorem going (h : Solo k w r c held st net a x) (onward : st.isDone = false) : x.isOver = false := by
  unfold Simulation.isOver
  rw [h.asked, h.ended, onward]
  rfl

/-- A transfer that waits for an answer that never comes never ends. -/
theorem hang (h : Solo k w r c held st net (.idle now) x) (onward : st.isDone = false) :
    Plays s k b x ⟨none, r, c, net⟩ := by
  have stuck : x.turn s none = none := by
    unfold Simulation.turn
    rw [h.going onward, h.scheduler]
    rfl
  have same : x.outcome k = ⟨none, r, c, net⟩ := by
    unfold Simulation.outcome
    rw [h.funder.result?.2 onward, h.funder.registry, h.funder.committed, h.net]
  rw [← same]
  exact .still stuck h.asked

/-- What is ready is done next. -/
theorem ready {task : Task} {rest : List Task} {waiting : List (Nat × Task)}
    (h : Solo k w r c held st net ⟨now, task :: rest, waiting⟩ x) (onward : st.isDone = false)
    (p : ∀ x', Solo k w r c held st net ⟨now, rest, waiting⟩ x' → Plays s k b (x'.perform s task) u) :
    Plays s k (b + 1) x u := by
  have turned : x.turn s none = some ({ x with scheduler := ⟨now, rest, waiting⟩ }.perform s task) := by
    unfold Simulation.turn
    rw [h.going onward, h.scheduler]
    rfl
  exact .turn turned (p _ ⟨h.funder, h.net, rfl, h.asked, h.backlog, h.ended⟩)

/-- When nothing is ready, the clock moves to what is due first. -/
theorem due {waiting : List (Nat × Task)} {time : Nat} (h : Solo k w r c held st net ⟨now, [], waiting⟩ x)
    (onward : st.isDone = false) (first : (waiting.map (·.1)).min? = some time) (later : now ≤ time)
    (p : ∀ x', Solo k w r c held st net (Scheduler.advance ⟨now, [], waiting⟩ time) x' → Plays s k b x' u) :
    Plays s k (b + 1) x u := by
  have turned : x.turn s none = some (x.pass s time) := by
    unfold Simulation.turn Scheduler.nextDue
    rw [h.going onward, h.scheduler]
    dsimp only [Scheduler.next?]
    rw [first]
    rfl
  refine .turn turned (p _ ⟨h.funder.pass (s := s) later, h.net, ?_, h.asked, h.backlog, h.ended⟩)
  show x.scheduler.advance time = _
  rw [h.scheduler]

theorem now_eq (h : Solo k w r c held st net a x) : x.now = a.now := congrArg Scheduler.now h.scheduler

/-- A task is put off behind those that were put off before. -/
theorem putOff {ready : List Task} {waiting : List (Nat × Task)}
    (h : Solo k w r c held st net ⟨now, ready, waiting⟩ x) (delay : Nat) (task : Task) :
    Solo k w r c held st net ⟨now, ready, waiting ++ [(now + delay, task)]⟩ (x.putOff delay task) := by
  refine ⟨h.funder, h.net, ?_, h.asked, h.backlog, h.ended⟩
  unfold Simulation.putOff
  rw [h.now_eq, h.scheduler]
  rfl

/-- What was put off alone is done when its time comes. -/
theorem later {task : Task} {delay : Nat} (h : Solo k w r c held st net (.idle now) x) (onward : st.isDone = false)
    (p : ∀ x', Solo k w r c held st net (.idle (now + delay)) x' → Plays s k b (x'.perform s task) u) :
    Plays s k (b + 2) (x.putOff delay task) u := by
  have first : (([] ++ [(now + delay, task)] : List (Nat × Task)).map (·.1)).min? = some (now + delay) := rfl
  refine (h.putOff delay task).due onward first (Nat.le_add_right ..) fun x' h' => ?_
  have advanced : Scheduler.advance ⟨now, [], [] ++ [(now + delay, task)]⟩ (now + delay) =
      ⟨now + delay, [task], []⟩ := by
    simp [Scheduler.advance]
  rw [advanced] at h'
  exact h'.ready onward p

/-! ### Events -/

/-- An event carries the transfer on; the scheduler stays, and a transfer that is over is closed. -/
theorem event {e : Event} {r' : Registry} {c' : Nat} {held' : Bool} {st' : Stage}
    (h : Solo k w r c held st net a x) (onward : st.isDone = false)
    (next : Stands k w r' c' a.now held' st' (x.funder.step s e)) (calm : st'.isQueued = false) :
    Solo k w r' c' held' st' net a (x.event s k e) := by
  have quiet : x.advanced s e = { x with funder := x.funder.step s e } := by
    rcases Simulation.advanced_cases s x e with ⟨j, handed, -⟩ | ⟨-, same⟩
    · -- whoever is handed the lock waits for it, and the transfer does not
      obtain ⟨-, holder, o, queued⟩ := Simulation.handed?_eq_some.1 handed
      have mine : k = j := by
        have lock := next.holder.symm.trans holder
        cases held' with
        | false => cases lock
        | true => exact Option.some.inj lock
      subst mine
      cases next.stage?.symm.trans queued
      cases calm
    · exact same
  have ended : x.ended = [] := by
    rw [h.ended, onward]
    rfl
  rw [Simulation.event_eq, quiet]
  cases done : st'.isDone with
  | false =>
    rw [if_neg fun closes => closes.2 (next.result?.2 done)]
    refine ⟨next, h.net, h.scheduler, h.asked, h.backlog, ?_⟩
    rw [done]
    exact ended
  | true =>
    rw [if_pos ⟨h.funder.result?.2 onward, fun still => Bool.noConfusion (done.symm.trans (next.result?.1 still))⟩]
    have closed : { x with funder := x.funder.step s e }.close k =
        { x with funder := x.funder.step s e, ended := x.ended ++ [k] } := by
      unfold Simulation.close
      dsimp only
      rw [h.backlog]
    rw [closed]
    refine ⟨next, h.net, h.scheduler, h.asked, h.backlog, ?_⟩
    rw [done, ended]
    rfl

theorem move (h : Solo k w r c held st net a x) (n : Net) : Solo k w r c held st n a { x with net := n } :=
  ⟨h.funder, rfl, h.scheduler, h.asked, h.backlog, h.ended⟩

/-- An event that ends the transfer, after a call that changed the network. -/
theorem ends {e : Event} {r' : Registry} {c' : Nat} {held' : Bool} {result : Except Failure Confirmation}
    (h : Solo k w r c held st net a x) (onward : st.isDone = false) (n : Net)
    (next : Stands k w r' c' a.now held' (.done result) (x.funder.step s e)) :
    Plays s k b ({ x with net := n }.event s k e) ⟨some result, r', c', n⟩ :=
  ((h.move n).event onward next rfl).finished

end Solo

/-! ### Calls -/

section Calls

variable {α : Type} {n : Net} {i time : Nat} {ask : Endpoint → Answer α × Endpoint}
  {action : Except Failure α → Network.Action}

theorem call_of_none (never : (n.ask i ask).1.result = none) :
    n.call i time ask action = ⟨time, none, (n.ask i ask).2⟩ := by
  unfold Net.call
  dsimp only
  rw [never]

theorem call_of_some {result : Except Failure α} (told : (n.ask i ask).1.result = some result) :
    n.call i time ask action =
      ⟨time + (n.ask i ask).1.delay, some result,
        (n.ask i ask).2.finish i (time + (n.ask i ask).1.delay) (action result)⟩ := by
  unfold Net.call
  dsimp only
  rw [told]

end Calls

namespace Simulation

/-- The answer to a call comes in at once, later, or never. -/
def hear {α : Type} (x : Simulation) (answer : Answer α) (take : Simulation → Except Failure α → Simulation)
    (task : Except Failure α → Task) : Simulation :=
  match answer.result with
  | none => x
  | some result => if answer.delay = 0 then take x result else x.putOff answer.delay (task result)

/-- Reading the nonce is a call. -/
theorem resync_eq (s : Setup) (x : Simulation) (k i : Nat) {a : Address}
    (mine : x.funder.registry.funding.address = a) :
    x.resync s k i = { x with net := (x.net.ask i (·.askNonce a)).2 }.hear (x.net.ask i (·.askNonce a)).1
      (fun x result => x.takeResynced s k i a result) (.resynced k i a) := by
  unfold resync hear
  rw [mine]
  dsimp only
  obtain ⟨⟨delay, result⟩, net⟩ := x.net.ask i (·.askNonce a)
  cases result <;> rfl

/-- Submitting a transaction is a call. -/
theorem submit_eq (s : Setup) {x : Simulation} {k : Nat} {o : Offer} {t : SignedTransaction}
    (here : x.funder.stage? k = some (.sending o t)) :
    x.submit s k =
      { x with net := (x.net.ask o.endpoint (·.submit t)).2 }.hear (x.net.ask o.endpoint (·.submit t)).1
        (fun x result => x.takeSent s k o.endpoint t result) (.sent k o.endpoint t) := by
  unfold submit hear
  rw [here]
  dsimp only
  obtain ⟨⟨delay, result⟩, net⟩ := x.net.ask o.endpoint (·.submit t)
  cases result <;> rfl

/-- Asking for the fees is a call. -/
theorem quote_eq (s : Setup) {x : Simulation} {k i : Nat} (here : x.funder.stage? k = some (.quoting i)) :
    x.quote s k =
      { x with net := (x.net.ask i Endpoint.askFees).2 }.hear (x.net.ask i Endpoint.askFees).1
        (fun x result => x.takeQuoted s k i result) (.quoted k i) := by
  unfold quote hear
  rw [here]
  dsimp only
  obtain ⟨⟨delay, result⟩, net⟩ := x.net.ask i Endpoint.askFees
  cases result <;> rfl

/-- A transfer that does not ask for fees submits its transaction, if it has one. -/
theorem quote_of_not_quoting {s : Setup} {x : Simulation} {k : Nat}
    (known : ∀ i, x.funder.stage? k ≠ some (.quoting i)) : x.quote s k = x.submit s k := by
  unfold quote
  split
  · next i here => exact absurd here (known i)
  · rfl

end Simulation

namespace Solo

variable {s : Setup} {k w c b now : Nat} {r : Registry} {held : Bool} {st : Stage} {net : Net} {a : Scheduler Task}
  {x : Simulation} {u : TransferOutcome}

/-- **A call that is waited for**: the simulation goes on when its answer comes in. -/
theorem hear {α : Type} {answer : Answer α} {take : Simulation → Except Failure α → Simulation}
    {task : Except Failure α → Task} (h : Solo k w r c held st net (.idle now) x) (onward : st.isDone = false)
    (performs : ∀ x result, Simulation.perform s x (task result) = take x result)
    (never : answer.result = none → u = ⟨none, r, c, net⟩)
    (answered : ∀ result, answer.result = some result →
      ∀ x', Solo k w r c held st net (.idle (now + answer.delay)) x' → Plays s k b (take x' result) u) :
    Plays s k (b + 2) (x.hear answer take task) u := by
  unfold Simulation.hear
  cases told : answer.result with
  | none =>
    rw [never told]
    exact h.hang onward
  | some result =>
    dsimp only
    split
    · next prompt =>
      rw [prompt] at answered
      exact (answered result told x h).mono (Nat.le_add_right ..)
    · refine h.later onward fun x' h' => ?_
      rw [performs]
      exact answered result told x' h'

/-- The nonce is read again after a refused submission. -/
theorem resync {o : Offer} {e : Failure} (h : Solo k w r c true (.resyncing o e) net (.idle now) x) (i : Nat) :
    Plays s k 2 (x.resync s k i) (Alone.resync i e now c r net) := by
  rw [Simulation.resync_eq s x k i (congrArg (·.funding.address) h.funder.registry), h.net]
  refine (h.move _).hear rfl (fun _ _ => rfl) (fun never => ?_) fun result told x' h' => ?_
  · unfold Alone.resync
    rw [call_of_none never]
  · unfold Simulation.takeResynced
    rw [h'.net, h'.now_eq]
    unfold Alone.resync
    rw [call_of_some told]
    exact h'.ends rfl _ (h'.funder.resynced result)

/-- The wait for a receipt is over at once when the patience is, and otherwise put off. -/
theorem wait {o : Offer} {t : SignedTransaction} {waiting : List (Nat × Task)}
    (h : Solo k w r c false (.awaiting o t now) net ⟨now, [], waiting⟩ x)
    (late : ∀ p ∈ waiting, now + Wait.bounded s.patience < p.1) :
    Plays s k 2
      (if s.patience = 0 then x.event s k (.expired k) else x.putOff (Wait.bounded s.patience) (.expired k))
      ⟨some (.error (Funder.unconfirmed s t)), r, Wei.minus c o.required, net⟩ := by
  split
  · next none =>
    have due : s.deadline now ≤ now := by
      unfold Setup.deadline
      rw [none]
      exact Nat.le_of_eq (by simp [Wait.till, Wait.bounded])
    exact (h.event rfl (h.funder.expired due) rfl).finished
  · have first : ((waiting ++ [(now + Wait.bounded s.patience, Task.expired k)]).map (·.1)).min? =
        some (now + Wait.bounded s.patience) := by
      rw [List.min?_eq_some_iff, List.map_append]
      refine ⟨List.mem_append_right _ (List.mem_singleton.2 rfl), fun due mem => ?_⟩
      rcases List.mem_append.1 mem with mem | mem
      · obtain ⟨p, listed, rfl⟩ := List.mem_map.1 mem
        exact Nat.le_of_lt (late p listed)
      · exact Nat.le_of_eq (List.mem_singleton.1 mem).symm
    refine (h.putOff _ _).due (b := 1) rfl first (Nat.le_add_right ..) fun x' h' => ?_
    have advanced : Scheduler.advance ⟨now, [], waiting ++ [(now + Wait.bounded s.patience, Task.expired k)]⟩
        (now + Wait.bounded s.patience) = ⟨now + Wait.bounded s.patience, [.expired k], waiting⟩ := by
      have none : waiting.filter (fun p => decide (p.1 ≤ now + Wait.bounded s.patience)) = [] :=
        List.filter_eq_nil_iff.2 fun p mem due => Nat.not_lt.2 (of_decide_eq_true due) (late p mem)
      have all : waiting.filter (fun p => !decide (p.1 ≤ now + Wait.bounded s.patience)) = waiting :=
        List.filter_eq_self.2 fun p mem => by simpa using late p mem
      simp [Scheduler.advance, List.filter_append, none, all]
    rw [advanced] at h'
    refine h'.ready (b := 0) rfl fun x'' h'' => ?_
    exact (h''.event rfl (h''.funder.expired (Nat.le_refl _)) rfl).finished

/-- The answer to the wait for a receipt that comes in time. -/
theorem takeAnswered {o : Offer} {t : SignedTransaction} {since : Nat}
    (h : Solo k w r c false (.awaiting o t since) net a x) (timely : a.now ≤ s.deadline since) (i : Nat)
    (t' : SignedTransaction) (result : Except Failure Confirmation) :
    Plays s k b (x.takeAnswered s k i t' result)
      (match result with
        | .error e =>
          ⟨some (.error e), r, Wei.minus c o.required, net.finish i a.now (.watched result.isOk t')⟩
        | .ok receipt =>
          ⟨some (Funder.verdict t receipt), s.settled r w receipt, Wei.minus c o.required,
            net.finish i a.now (.watched result.isOk t')⟩) := by
  unfold Simulation.takeAnswered
  rw [h.funder.stage?, h.net, h.now_eq]
  cases result with
  | error e => exact h.ends rfl _ (h.funder.lost timely e)
  | ok receipt => exact h.ends rfl _ (h.funder.received timely receipt)

/-- An answer that comes in time is heard before the patience ends. -/
theorem answer {o : Offer} {t : SignedTransaction} {delay : Nat} {result : Except Failure Confirmation}
    (h : Solo k w r c false (.awaiting o t now) net
      ⟨now, [], [(now + delay, .answered k o.endpoint t result), (now + Wait.bounded s.patience, .expired k)]⟩ x)
    (timely : delay ≤ Wait.bounded s.patience)
    (p : ∀ a x', a.now = now + delay → Solo k w r c false (.awaiting o t now) net a x' →
      Plays s k b (x'.takeAnswered s k o.endpoint t result) u) :
    Plays s k (b + 2) x u := by
  have first : ([(now + delay, Task.answered k o.endpoint t result),
      (now + Wait.bounded s.patience, .expired k)].map (·.1)).min? = some (now + delay) := by
    rw [List.min?_eq_some_iff]
    refine ⟨List.mem_cons_self, fun due mem => ?_⟩
    simp only [List.map_cons, List.map_nil, List.mem_cons, List.not_mem_nil, or_false] at mem
    omega
  refine h.due rfl first (Nat.le_add_right ..) fun x' h' => ?_
  obtain ⟨rest, waiting, advanced⟩ : ∃ rest waiting,
      Scheduler.advance ⟨now, [], [(now + delay, Task.answered k o.endpoint t result),
        (now + Wait.bounded s.patience, .expired k)]⟩ (now + delay) =
      ⟨now + delay, .answered k o.endpoint t result :: rest, waiting⟩ := by
    unfold Scheduler.advance
    rw [List.filter_cons_of_pos (by simp)]
    exact ⟨_, _, rfl⟩
  rw [advanced] at h'
  exact h'.ready rfl fun x'' h'' => p _ x'' rfl h''

/-- The wait for the receipt of a transfer that has just been sent. -/
theorem watch {o : Offer} {t : SignedTransaction} (h : Solo k w r c false (.awaiting o t now) net (.idle now) x) :
    Plays s k 2 (x.watch s k) (Alone.watch s w o.endpoint t now (Wei.minus c o.required) r net) := by
  unfold Simulation.watch Alone.watch
  rw [h.funder.stage?, h.net]
  dsimp only
  have bound : (net.ask o.endpoint (·.watch t)).1.delay ≤ Wait.longest := by
    unfold Net.ask
    split
    · exact Wait.bounded_le_longest _
    · exact Nat.zero_le _
  revert bound
  obtain ⟨⟨delay, result⟩, n⟩ := net.ask o.endpoint (·.watch t)
  intro bound
  have h := h.move n
  cases result with
  | none => exact h.wait nofun
  | some result =>
    dsimp only at bound ⊢
    have late_iff : s.patience < delay ↔ Wait.bounded s.patience < delay := by
      unfold Wait.bounded
      omega
    have off := h.putOff delay (.answered k o.endpoint t result)
    by_cases late : s.patience < delay
    · rw [if_pos late, if_neg (by omega)]
      refine off.wait fun p mem => ?_
      rw [List.mem_singleton.1 mem]
      omega
    · rw [if_neg late]
      have timely : delay ≤ Wait.bounded s.patience := by omega
      split
      · next prompt =>
        subst prompt
        exact (h.takeAnswered (Nat.le_add_right ..) o.endpoint t result).mono (Nat.zero_le 2)
      · next waits =>
        rw [if_neg (by omega)]
        refine (off.putOff (Wait.bounded s.patience) (.expired k)).answer (b := 0) timely fun a x' there h' => ?_
        have taken := h'.takeAnswered (s := s) (b := 0) (there ▸ Nat.add_le_add_left timely now) o.endpoint t result
        rw [there] at taken
        exact taken

/-- The answer to a submission. -/
theorem takeSent {o : Offer} {t : SignedTransaction} (h : Solo k w r c true (.sending o t) net (.idle now) x)
    (back : Wei.minus (Wei.plus c o.required) o.required = c) (result : Except Failure Unit) :
    Plays s k 2 (x.takeSent s k o.endpoint t result)
      (match result with
        | .error e =>
          Alone.resync o.endpoint e now c r (net.finish o.endpoint now (.sent result.isOk t))
        | .ok () =>
          Alone.watch s w o.endpoint t now c r (net.finish o.endpoint now (.sent result.isOk t))) := by
  unfold Simulation.takeSent
  rw [h.net, h.now_eq]
  have h := h.move (net.finish o.endpoint now (.sent result.isOk t))
  cases result with
  | error e =>
    have next := h.event (s := s) (e := .sent k (.error e)) rfl (h.funder.refused e) rfl
    dsimp only
    rw [Scheduler.idle, next.funder.stage?]
    exact next.resync o.endpoint
  | ok =>
    have next := h.event (s := s) (e := .sent k (.ok ())) rfl h.funder.accepted rfl
    dsimp only
    rw [Scheduler.idle, next.funder.stage?]
    have watched := next.watch (s := s)
    rw [back] at watched
    exact watched

/-- The submission of a transaction that has just been signed. -/
theorem submit {o : Offer} {t : SignedTransaction} (h : Solo k w r c true (.sending o t) net (.idle now) x)
    (back : Wei.minus (Wei.plus c o.required) o.required = c) :
    Plays s k 4 (x.submit s k) (Alone.submit s w o.endpoint t now c r net) := by
  rw [Simulation.submit_eq s h.funder.stage?, h.net]
  unfold Alone.submit
  refine (h.move _).hear rfl (fun _ _ => rfl) (fun never => ?_) fun result told x' h' => ?_
  · rw [call_of_none never]
  · rw [call_of_some told]
    have taken := h'.takeSent (s := s) back result
    cases result <;> exact taken

theorem submit_of_finished {result : Except Failure Confirmation} (h : Solo k w r c held (.done result) net a x) :
    Plays s k b (x.submit s k) ⟨some result, r, c, net⟩ := by
  have same : x.submit s k = x := by
    unfold Simulation.submit
    rw [h.funder.stage?]
  rw [same]
  exact h.finished

/-- The transfer enters the check of the balance, and submits its transaction if it passes. -/
theorem enter {e : Event} (h : Solo k w r c false st net (.idle now) x) (onward : st.isDone = false)
    (word : r.funding.balance ≤ word256Max) (i : Nat) (q : Fee.Quote)
    (enters : x.funder.step s e = x.funder.enter s k i q) :
    Plays s k 4 ((x.event s k e).submit s k) (Alone.enter s w i q.clamped now c r net) := by
  obtain ⟨f₁, queued, checks⟩ := h.funder.enter (s := s) i q
  rw [checks] at enters
  have carried {r' : Registry} {held' : Bool} {st' : Stage}
      (next : Stands k w r' c now held' st' (f₁.checkFunds s k ⟨i, q.clamped, s.maxCost q.clamped⟩))
      (calm : st'.isQueued = false) : Solo k w r' c held' st' net (.idle now) (x.event s k e) :=
    h.event onward (enters ▸ next) calm
  unfold Alone.enter
  dsimp only
  split
  · next poor => exact (carried (queued.check_of_poor poor) rfl).submit_of_finished
  · next covered =>
    have covered := Nat.not_lt.1 covered
    split
    · next failed => exact (carried (queued.check_of_unsigned covered failed) rfl).submit_of_finished
    · next signed =>
      refine (carried (queued.check_of_signed covered signed) rfl).submit ?_
      exact minus_plus word covered (maxCost_pos s q)

/-- The question about fees. -/
theorem quote {i : Nat} (h : Solo k w r c false (.quoting i) net (.idle now) x)
    (word : r.funding.balance ≤ word256Max) (asks : s.overrides.quote? = none) :
    Plays s k 6 (x.quote s k)
      (let heard := net.quote i now s.overrides
      match heard.result with
      | none => ⟨none, r, c, heard.net⟩
      | some (.error e) => ⟨some (.error e), r, c, heard.net⟩
      | some (.ok q) => Alone.enter s w i q heard.time c r heard.net) := by
  rw [Simulation.quote_eq s h.funder.stage?, h.net]
  unfold Net.quote
  rw [asks]
  refine (h.move _).hear rfl (fun _ _ => rfl) (fun never => ?_) fun result told x' h' => ?_
  · rw [call_of_none never]
    rfl
  · rw [call_of_some told]
    unfold Simulation.takeQuoted
    rw [h'.net, h'.now_eq]
    have h' := h'.move ((net.ask i Endpoint.askFees).2.finish i (now + (net.ask i Endpoint.askFees).1.delay) .askedFees)
    cases result with
    | error e => exact (h'.event rfl (h'.funder.unquoted e) rfl).submit_of_finished
    | ok fees => exact h'.enter rfl word i ⟨fees.1, fees.2⟩ (h'.funder.quoted fees)

/-- The transfer begins. -/
theorem begin {f : Funder} (h : Solo k w f.registry f.committed false .requested net (.idle f.now) x)
    (pool : x.funder.pool = f.pool) (word : f.registry.funding.balance ≤ word256Max) :
    Plays s k 6 (x.perform s (.begin k)) (Alone.transfer s f w net) := by
  have begins := h.funder.begin_eq (s := s)
  rw [pool] at begins
  show Plays s k 6 ((x.event s k (.begin k)).quote s k) _
  unfold Alone.transfer
  cases first : f.pool.good.head? with
  | none =>
    rw [first] at begins
    have finished := h.event (s := s) (e := .begin k) rfl (by rw [begins]; exact h.funder.reach _) rfl
    rw [Simulation.quote_of_not_quoting fun i quoting => nomatch finished.funder.stage?.symm.trans quoting]
    exact finished.submit_of_finished
  | some i =>
    rw [first] at begins
    dsimp only at begins ⊢
    cases asks : s.overrides.quote? with
    | none =>
      rw [asks] at begins
      have quoting := h.event (s := s) (e := .begin k) rfl (by rw [begins]; exact h.funder.reach _) rfl
      exact quoting.quote word asks
    | some q =>
      rw [asks] at begins
      have known (i : Nat) : (x.event s k (.begin k)).funder.stage? k ≠ some (.quoting i) := by
        intro quoting
        rw [Simulation.funder_event, begins] at quoting
        rcases Funder.stage?_enter quoting h.funder.stage? h.funder.holder with finished | ⟨o, t, sending, -⟩
        · cases finished
        · cases sending
      rw [Simulation.quote_of_not_quoting known]
      have entered := h.enter rfl word i q begins
      unfold Net.quote
      rw [asks]
      exact entered.mono (by decide)

end Solo

/-! ## From the request to the end -/

/-- The simulation of a transfer that was asked for. -/
theorem solo_ask (s : Setup) (net : Net) {f : Funder} (unlocked : f.Unlocked) (w : Nat) :
    Solo f.transfers.size w f.registry f.committed false .requested net (.idle f.now)
      { Simulation.ask s net f [w] 1 with scheduler := .idle f.now } where
  funder := {
    transfer := Array.getElem?_push_size
    registry := rfl
    committed := rfl
    holder := unlocked.holder
    queue := unlocked.queue
    now := rfl }
  net := rfl
  scheduler := rfl
  asked := rfl
  backlog := rfl
  ended := rfl

/-- **A transfer that is asked for while the lock is free comes to what the straight line says.** -/
theorem transferAll_alone (s : Setup) (net : Net) {f : Funder} (unlocked : f.Unlocked)
    (word : f.registry.funding.balance ≤ word256Max) (w : Nat) :
    (f.transferAll s net [w] 0).outcome = Alone.transfer s f w net ∧
      (f.transferAll s net [w] 0).results = [(Alone.transfer s f w net).result] := by
  have begun : (Simulation.ask s net f [w] 1).turn s none =
      some ({ Simulation.ask s net f [w] 1 with scheduler := .idle f.now }.perform s (.begin f.transfers.size)) := rfl
  have played := Plays.turn begun ((solo_ask s net unlocked w).begin rfl word)
  obtain ⟨asked, outcome⟩ := played Simulation.turnsPerTransfer (by decide)
  have batch : ∃ peeked, f.transferAll s net [w] 0 =
      let h := (Simulation.ask s net f [w] 1).turns s none Simulation.turnsPerTransfer
      ⟨peeked, h.asked.map h.funder.result?, h.funder.step s (.pass f.now), h.net⟩ := ⟨_, rfl⟩
  obtain ⟨peeked, batch⟩ := batch
  generalize (Simulation.ask s net f [w] 1).turns s none Simulation.turnsPerTransfer = h at asked outcome batch
  rw [batch, ← outcome]
  unfold Funder.Batch.outcome
  dsimp only
  rw [asked]
  exact ⟨rfl, rfl⟩

end TxLoad.Funding
