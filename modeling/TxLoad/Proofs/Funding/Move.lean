import TxLoad.Proofs.Funding.Trace
import TxLoad.Proofs.Lists
import Mathlib.Algebra.Order.BigOperators.Group.List
import Mathlib.Algebra.Order.Group.Nat

/-!
# What an event of a funder can do

`Move s f d f'` lists everything that one event can do to a funder, with its action `d`: a transfer moves on before it
has the lock, it is refused, signed, accepted or rejected while it has the lock, and it is settled or given up later.

- **Every event is a move** (`move_step`);
- **what every move keeps, every sequence of events keeps** (`after_induction`), told of the funder and of its trace
  at once;
- `Locked`: the lock is with the transfer that is sending, and so there is at most one.
-/

namespace TxLoad.Funding

/-- The most that a transfer can cost at a quote. -/
def Setup.maxCost (s : Setup) (q : Fee.Quote) : Nat := (Payload.transfer .zero s.plan.prefund).maxCost q.feeCap

/-- What a receipt takes from the funding account. -/
def Setup.spent (s : Setup) (c : Confirmation) : Nat :=
  if c.success then Wei.plus s.plan.prefund c.totalFee else c.totalFee

namespace Stage

/-- The transfer has nothing to do with the funding account: it is not sending, and not out. -/
def isIdle : Stage → Bool
  | requested | quoting _ | queued _ | done _ => true
  | _ => false

/-- The offer of a transfer that has one. -/
def offer? : Stage → Option Offer
  | queued o | sending o _ | resyncing o _ | awaiting o _ _ => some o
  | _ => none

theorem isSending_of_isIdle {st : Stage} (h : st.isIdle) : st.isSending = false := by
  cases st <;> first | rfl | cases h

end Stage

namespace Funder

variable {s : Setup} {f f' : Funder} {k : Nat}

/-- The stage of a transfer after one of them came to another stage. -/
theorem stage?_reach {a b : Stage} (here : f.stage? k = some a) (reached : f'.transfers = (f.reach k b).transfers)
    (j : Nat) : f'.stage? j = if k = j then some b else f.stage? j := by
  unfold stage? at here ⊢
  rw [reached]
  unfold reach
  rw [Array.getElem?_modify]
  split
  · next same =>
    subst same
    obtain ⟨t, there, -⟩ := Option.map_eq_some_iff.1 here
    rw [there]
    rfl
  · rfl

/-- A stage after one transfer came to another one is that one, or was there before. -/
theorem mine_or_old {a b st : Stage} (here : f.stage? k = some a) (reached : f'.transfers = (f.reach k b).transfers)
    {j : Nat} (there : f'.stage? j = some st) : k = j ∧ st = b ∨ k ≠ j ∧ f.stage? j = some st := by
  rw [stage?_reach here reached] at there
  split at there
  · next mine => exact .inl ⟨mine, (Option.some.inj there).symm⟩
  · next other => exact .inr ⟨other, there⟩

theorem stage?_reach_self {a : Stage} (here : f.stage? k = some a) (b : Stage) : (f.reach k b).stage? k = some b := by
  rw [stage?_reach here rfl, if_pos rfl]

/-- A new transfer is requested, the others stay where they are. -/
theorem stage?_request {worker : Nat} (requested : f'.transfers = f.transfers.push ⟨worker, .requested⟩) {j : Nat}
    {st : Stage} (there : f'.stage? j = some st) : f.stage? j = some st ∨ st = .requested := by
  unfold stage? at there ⊢
  rw [requested, Array.getElem?_push] at there
  split at there
  · exact .inr (Option.some.inj there).symm
  · exact .inl there

/-- A new transfer leaves the others where they are. -/
theorem stage?_request_of_some {worker : Nat} (requested : f'.transfers = f.transfers.push ⟨worker, .requested⟩)
    {j : Nat} {st : Stage} (there : f.stage? j = some st) : f'.stage? j = some st := by
  obtain ⟨t, old, rfl⟩ := Option.map_eq_some_iff.1 there
  unfold stage?
  rw [requested, Array.getElem?_push, if_neg (Nat.ne_of_lt (Array.getElem?_eq_some_iff.1 old).1), old]
  rfl

/-- What the transfers amount to together, when each of them counts for something at its stage. -/
def sumOver (g : Stage → Nat) (f : Funder) : Nat := (f.transfers.toList.map fun t => g t.stage).sum

/-- The amount changes by what one transfer counts for. -/
theorem sumOver_reach (g : Stage → Nat) {a b : Stage} (here : f.stage? k = some a)
    (reached : f'.transfers = (f.reach k b).transfers) : f'.sumOver g + g a = f.sumOver g + g b := by
  obtain ⟨t, there, rfl⟩ := Option.map_eq_some_iff.1 here
  unfold sumOver
  rw [reached, reach, Array.toList_modify]
  have listed : f.transfers.toList[k]? = some t := by simpa using there
  exact sum_map_modify (fun t : Transfer => g t.stage) _ listed

theorem sumOver_le_sumOver {g g' : Stage → Nat} (le : ∀ st, g st ≤ g' st) (f : Funder) : f.sumOver g ≤ f.sumOver g' :=
  List.sum_le_sum fun t _ => le t.stage

/-- Transfers that count for one at most amount to their number at most. -/
theorem sumOver_le_size {g : Stage → Nat} (le : ∀ st, g st ≤ 1) (f : Funder) : f.sumOver g ≤ f.transfers.size := by
  have each : ∀ n ∈ f.transfers.toList.map fun t => g t.stage, n ≤ 1 := by
    intro n mem
    obtain ⟨t, -, rfl⟩ := List.mem_map.1 mem
    exact le t.stage
  simpa [sumOver] using List.sum_le_card_nsmul _ 1 each

/-- Transfers at stages that count for nothing amount to nothing. -/
theorem sumOver_eq_zero {g : Stage → Nat} (nothing : ∀ k st, f.stage? k = some st → g st = 0) : f.sumOver g = 0 := by
  rcases Nat.eq_zero_or_pos (f.sumOver g) with zero | counted
  · exact zero
  · obtain ⟨n, mem, pos⟩ := List.sum_pos_iff_exists_pos_nat.1 counted
    obtain ⟨t, listed, rfl⟩ := List.mem_map.1 mem
    obtain ⟨k, there⟩ := Array.getElem?_of_mem (Array.mem_toList_iff.1 listed)
    have here : f.stage? k = some t.stage := by
      unfold stage?
      rw [there]
      rfl
    have zero := nothing k t.stage here
    omega

end Funder

/-! ## Moves -/

open Funder in
/-- **Everything that one event can do to a funder**, with its action. The log changes as it likes. -/
inductive Move (s : Setup) (f : Funder) : Option Action → Funder → Prop
  | rest {now : Nat} : Move s f none { f with now := now }
  | request (worker : Nat) : Move s f none { f with transfers := f.transfers.push ⟨worker, .requested⟩ }
  | wait {k : Nat} {a b : Stage} {queue : List Nat} {log : Array Log.Entry} (here : f.stage? k = some a)
      (idle : a.isIdle) (waits : b.isIdle) (fair : ∀ o, b.offer? = some o → o.required = s.maxCost o.quote)
      (onward : a.isDone = false) (floored : ∀ o, b.offer? = some o → Fee.floor ≤ o.quote.feeCap) :
      Move s f none { f.reach k b with queue := queue, log := log }
  | refuse {k : Nat} {a : Stage} {e : Failure} {log : Array Log.Entry} (here : f.stage? k = some a) (idle : a.isIdle)
      (mine : f.holder = none ∨ f.holder = some k) (onward : a.isDone = false) :
      Move s f none { (f.reach k (.done (.error e))).unlock with log := log }
  | unsigned {k : Nat} {a : Stage} {e : Failure} {log : Array Log.Entry} (here : f.stage? k = some a) (idle : a.isIdle)
      (mine : f.holder = none ∨ f.holder = some k) (unsignable : e = Transaction.unsignable)
      (onward : a.isDone = false) :
      Move s f (some (.unsigned k e))
        { (f.reach k (.done (.error e))).unlock with
          registry := f.registry.modifyFunding Account.reserve
          log := log }
  | sign {k : Nat} {a : Stage} {o : Offer} {t : SignedTransaction} {log : Array Log.Entry}
      (here : f.stage? k = some a) (idle : a.isIdle) (mine : f.holder = none ∨ f.holder = some k)
      (fair : a.offer? = some o ∨ o.required = s.maxCost o.quote) (covered : o.required ≤ f.available)
      (made : t.transaction = f.registry.funding.draft (f.payload s k) o.quote) (onward : a.isDone = false)
      (floored : a.offer? = some o ∨ Fee.floor ≤ o.quote.feeCap) :
      Move s f none
        { f.reach k (.sending o t) with
          registry := f.registry.modifyFunding Account.reserve
          holder := some k
          log := log }
  | accept {k : Nat} {o : Offer} {t : SignedTransaction} (here : f.stage? k = some (.sending o t)) :
      Move s f (some (.accepted k t))
        { f.reach k (.awaiting o t f.now) with committed := Wei.plus f.committed o.required }.unlock
  | reject {k : Nat} {o : Offer} {t : SignedTransaction} {e : Failure} (here : f.stage? k = some (.sending o t)) :
      Move s f none (f.reach k (.resyncing o e))
  | reread {k : Nat} {o : Offer} {e : Failure} {answer : Except Failure Nat} {log : Array Log.Entry}
      (here : f.stage? k = some (.resyncing o e)) :
      Move s f (some (.reread k answer))
        { (f.reach k (.done (.error e))).unlock with
          registry := f.registry.modifyFunding fun a => { a with nextNonce := answer.toOption.getD a.nextNonce }
          log := log }
  | receive {k since : Nat} {o : Offer} {t : SignedTransaction} {c : Confirmation}
      {result : Except Failure Confirmation} {workers : Array Account} {log : Array Log.Entry}
      (here : f.stage? k = some (.awaiting o t since)) :
      Move s f (some (.received k o c))
        { (f.release o).reach k (.done result) with
          registry := { f.registry with funding := f.registry.funding.debit (s.spent c), workers := workers }
          log := log }
  | lapse {k since : Nat} {o : Offer} {t : SignedTransaction} {e : Failure}
      (here : f.stage? k = some (.awaiting o t since)) : Move s f none ((f.release o).reach k (.done (.error e)))

namespace Funder

variable {s : Setup} {f f' : Funder} {k : Nat}

theorem move_stay : Move s f none f := @Move.rest s f f.now

/-! ## The check of the balance -/

/-- As long as the next nonce stays, none is used up. -/
theorem unsigned?_of_calm (same : f'.registry.funding.nextNonce = f.registry.funding.nextNonce) (k : Nat) :
    f.unsigned? f' k = none := by
  unfold unsigned?
  split
  · rw [if_neg (by omega)]
  · rfl

theorem unsigned?_of_reserve {e : Failure} (ended : f'.stage? k = some (.done (.error e)))
    (reserved : f'.registry.funding = f.registry.funding.reserve) : f.unsigned? f' k = some (.unsigned k e) := by
  unfold unsigned?
  rw [ended, reserved]
  exact if_pos (Nat.lt_succ_self _)

theorem unsigned?_of_sending {o : Offer} {t : SignedTransaction} (sending : f'.stage? k = some (.sending o t)) :
    f.unsigned? f' k = none := by
  unfold unsigned?
  rw [sending]

/-- A transfer that comes to two stages is at the last one. -/
theorem reach_reach (f : Funder) (k : Nat) (a b : Stage) : (f.reach k a).reach k b = f.reach k b := by
  unfold reach
  congr 1
  apply Array.ext_getElem?
  intro j
  rw [Array.getElem?_modify, Array.getElem?_modify, Array.getElem?_modify]
  split
  · rw [Option.map_map]
    rfl
  · rfl

/-- A transfer that comes to where it is stays there. -/
theorem reach_self {a : Stage} (here : f.stage? k = some a) : f.reach k a = f := by
  unfold reach
  have same : f.transfers.modify k (fun t => { t with stage := a }) = f.transfers := by
    apply Array.ext_getElem?
    intro j
    rw [Array.getElem?_modify]
    split
    · next mine =>
      subst mine
      obtain ⟨t, there, rfl⟩ := Option.map_eq_some_iff.1 here
      rw [there]
      rfl
    · rfl
  rw [same]

/-- A transfer that goes on keeps its worker. -/
theorem payload_reach (k : Nat) (b : Stage) (j : Nat) : (f.reach k b).payload s j = f.payload s j := by
  have address : (f.reach k b).workerAddress j = f.workerAddress j := by
    unfold workerAddress reach
    dsimp only
    rw [Array.getElem?_modify]
    split
    · cases f.transfers[j]? <;> rfl
    · rfl
  unfold payload
  rw [address]

theorem assemble_payload (s : Setup) (f : Funder) (k : Nat) (a : Account) (q : Fee.Quote) :
    a.assemble (f.payload s k) q = (a.reserve, (a.draft (f.payload s k) q).sign a.key a.address) :=
  if_neg (by simp [payload, Payload.transfer, Payload.transferGas])

section Check

variable {o : Offer} {account : Account} {e : Failure} {t : SignedTransaction}

theorem checkFunds_of_poor (poor : f.available < o.required) :
    f.checkFunds s k o = f.giveUp k (insufficient o.required f.available) :=
  if_pos poor

theorem checkFunds_of_unsigned (covered : o.required ≤ f.available)
    (failed : f.registry.funding.assemble (f.payload s k) o.quote = (account, .error e)) :
    f.checkFunds s k o = { f with registry := f.registry.modifyFunding fun _ => account }.giveUp k e := by
  unfold checkFunds
  rw [if_neg (Nat.not_lt.2 covered), failed]

theorem checkFunds_of_signed (covered : o.required ≤ f.available)
    (signed : f.registry.funding.assemble (f.payload s k) o.quote = (account, .ok t)) :
    f.checkFunds s k o = { f with registry := f.registry.modifyFunding fun _ => account }.reach k (.sending o t) := by
  unfold checkFunds
  rw [if_neg (Nat.not_lt.2 covered), signed]

end Check

/-- Checking the balance is a move. -/
theorem move_check {a : Stage} {o : Offer} (here : f.stage? k = some a) (idle : a.isIdle)
    (mine : f.holder = none ∨ f.holder = some k) (fair : a.offer? = some o ∨ o.required = s.maxCost o.quote)
    (onward : a.isDone = false) (floored : a.offer? = some o ∨ Fee.floor ≤ o.quote.feeCap)
    (log : Array Log.Entry) {f₁ : Funder} (locked : f₁ = { f.reach k (.queued o) with holder := some k, log := log }) :
    Move s f (f.unsigned? (f₁.checkFunds s k o) k) (f₁.checkFunds s k o) := by
  have registry : f₁.registry = f.registry := by rw [locked]; rfl
  have available : f₁.available = f.available := by rw [locked]; rfl
  have payload : f₁.payload s k = f.payload s k := by
    rw [locked]
    exact payload_reach k (.queued o) k
  have reached (r : Registry) (b : Stage) : { f₁ with registry := r }.reach k b =
      { f.reach k b with registry := r, holder := some k, log := log } := by
    rw [locked, ← reach_reach f k (.queued o) b]
    rfl
  have givenUp (r : Registry) (e : Failure) : { f₁ with registry := r }.giveUp k e =
      { (f.reach k (.done (.error e))).unlock with registry := r, log := log } := by
    unfold giveUp
    rw [reached]
    rfl
  rcases Nat.lt_or_ge f.available o.required with poor | covered
  · have refused : f₁.checkFunds s k o =
        { f₁ with registry := f.registry }.giveUp k (insufficient o.required f₁.available) := by
      rw [checkFunds_of_poor (by rw [available]; exact poor), ← registry]
    rw [refused, givenUp, unsigned?_of_calm (by rfl)]
    exact .refuse here idle mine onward
  · have covered₁ : o.required ≤ f₁.available := by rw [available]; exact covered
    have made := assemble_payload s f₁ k f₁.registry.funding o.quote
    cases signed : (f₁.registry.funding.draft (f₁.payload s k) o.quote).sign f₁.registry.funding.key
        f₁.registry.funding.address with
    | error e =>
      rw [signed] at made
      rw [checkFunds_of_unsigned covered₁ made, givenUp, registry]
      rw [unsigned?_of_reserve (by exact stage?_reach_self here _) (by rfl)]
      exact .unsigned here idle mine (Transaction.error_of_sign signed) onward
    | ok t =>
      rw [signed] at made
      rw [checkFunds_of_signed covered₁ made, reached, registry]
      rw [unsigned?_of_sending (by exact stage?_reach_self here _)]
      refine .sign here idle mine fair covered ?_ onward floored
      rw [Transaction.transaction_of_sign signed, registry, payload]

/-- After the check of the balance a transfer is over, or it is sending. -/
theorem stage?_checkFunds {o : Offer} {a st : Stage} (there : (f.checkFunds s k o).stage? k = some st)
    (here : f.stage? k = some a) : st.isDone ∨ ∃ t, st = .sending o t := by
  have reached {g : Funder} {b : Stage} (here : g.stage? k = some a) (there : (g.reach k b).stage? k = some st) :
      b = st :=
    Option.some.inj ((stage?_reach_self here b).symm.trans there)
  rcases Nat.lt_or_ge f.available o.required with poor | covered
  · rw [checkFunds_of_poor poor] at there
    rw [← reached here there]
    exact .inl rfl
  · have made := assemble_payload s f k f.registry.funding o.quote
    cases signed : (f.registry.funding.draft (f.payload s k) o.quote).sign f.registry.funding.key
        f.registry.funding.address with
    | error e =>
      rw [signed] at made
      rw [checkFunds_of_unsigned covered made] at there
      rw [← reached (by exact here) there]
      exact .inl rfl
    | ok t =>
      rw [signed] at made
      rw [checkFunds_of_signed covered made] at there
      exact .inr ⟨t, (reached (by exact here) there).symm⟩

/-- A transfer with known fees that finds the lock free is over then, or it is sending at these fees. -/
theorem stage?_enter {endpoint : Nat} {quote : Fee.Quote} {a st : Stage}
    (there : (f.enter s k endpoint quote).stage? k = some st) (here : f.stage? k = some a) (free : f.holder = none) :
    st.isDone ∨ ∃ o t, st = .sending o t ∧ o.quote = quote.clamped := by
  unfold enter at there
  dsimp only at there
  split at there
  · rcases stage?_checkFunds there (by exact stage?_reach_self here _) with ended | ⟨t, sending⟩
    · exact .inl ended
    · exact .inr ⟨_, t, sending, rfl⟩
  · next taken => exact absurd (taken.symm.trans free) nofun

/-! ## The other events of a transfer -/

theorem move_calm (k : Nat) : Move s f (f.unsigned? f k) f := by
  rw [unsigned?_of_calm rfl]
  exact move_stay

theorem move_drop {a : Stage} (here : f.stage? k = some a) (idle : a.isIdle) (onward : a.isDone = false) (e : Failure) :
    Move s f (f.unsigned? (f.reach k (.done (.error e))) k) (f.reach k (.done (.error e))) := by
  rw [unsigned?_of_calm (by rfl)]
  exact @Move.wait s f k _ _ f.queue f.log here idle rfl nofun onward nofun

/-- A transfer with known fees makes a move. -/
theorem move_enter {a : Stage} (here : f.stage? k = some a) (idle : a.isIdle) (onward : a.isDone = false)
    (endpoint : Nat) (quote : Fee.Quote) :
    Move s f (f.unsigned? (f.enter s k endpoint quote) k) (f.enter s k endpoint quote) := by
  unfold enter
  dsimp only
  split
  · next free => exact move_check here idle (.inl free) (.inr rfl) onward (.inr (Nat.le_max_right ..)) _ rfl
  · rw [unsigned?_of_calm (by rfl)]
    refine .wait here idle rfl ?_ onward ?_
    all_goals rintro o ⟨⟩
    · rfl
    · exact Nat.le_max_right ..

/-- The first event of a transfer is a move. -/
theorem move_begin (k : Nat) : Move s f (f.unsigned? (f.begin s k) k) (f.begin s k) := by
  unfold begin
  split
  · next here =>
    split
    · exact move_drop here rfl rfl _
    · split
      · exact move_enter here rfl rfl _ _
      · rw [unsigned?_of_calm (by rfl)]
        exact @Move.wait s f k _ _ f.queue f.log here rfl rfl nofun rfl nofun
  · exact move_calm k

/-- An answer about fees is a move. -/
theorem move_quoted (k : Nat) (answer : Except Failure (Nat × Nat)) :
    Move s f (f.unsigned? (f.quoted s k answer) k) (f.quoted s k answer) := by
  unfold quoted
  split
  · next here =>
    cases answer with
    | error e => exact move_drop here rfl rfl e
    | ok fees => exact move_enter here rfl rfl _ _
  · exact move_calm k

/-- A transfer that was handed the lock makes a move. -/
theorem move_granted (k : Nat) : Move s f (f.unsigned? (f.granted s k) k) (f.granted s k) := by
  unfold granted
  split
  · next o here =>
    split
    · next mine =>
      refine move_check here rfl (.inr mine) (.inl rfl) rfl (.inl rfl) f.log ?_
      rw [reach_self here, ← mine]
    · exact move_calm k
  · exact move_calm k

/-- An answer to a submission is a move. -/
theorem move_sent (k : Nat) (answer : Except Failure Unit) :
    Move s f (f.action? s (.sent k answer)) (f.sent k answer) := by
  unfold sent
  split
  · next here =>
    cases answer with
    | error e => exact .reject here
    | ok =>
      simp only [action?, here]
      exact .accept here
  · next other =>
    have silent : f.action? s (.sent k answer) = none := by
      cases answer with
      | error e => rfl
      | ok => simp only [action?]
    rw [silent]
    exact move_stay

/-- A nonce that was read again is a move. -/
theorem move_resynced (k : Nat) (answer : Except Failure Nat) :
    Move s f (f.action? s (.resynced k answer)) (f.resynced k answer) := by
  unfold resynced
  split
  · next here =>
    simp only [action?, here]
    cases answer <;> exact .reread here
  · next other =>
    have silent : f.action? s (.resynced k answer) = none := by simp only [action?]
    rw [silent]
    exact move_stay

/-- Taking a receipt into account is a move. -/
theorem move_settle {o : Offer} {t : SignedTransaction} {since : Nat} (here : f.stage? k = some (.awaiting o t since))
    (c : Confirmation) : Move s f (some (.received k o c)) ((f.release o).settle s k t c) := by
  have moved (result : Except Failure Confirmation) (workers : Array Account) (log : Array Log.Entry) :=
    @Move.receive s f k since o t c result workers log here
  unfold settle
  dsimp only
  cases success : c.success with
  | true =>
    rw [Setup.spent, if_pos success] at moved
    exact moved _ _ _
  | false =>
    rw [Setup.spent, if_neg (by simp [success])] at moved
    exact moved _ _ _

/-- An answer to the wait for a receipt is a move. -/
theorem move_answered (k : Nat) (answer : Except Failure Confirmation) :
    Move s f (f.action? s (.answered k answer)) (f.answered s k answer) := by
  unfold answered
  split
  · next here =>
    cases answer with
    | error e =>
      split
      · exact .lapse here
      · exact move_stay
    | ok c =>
      simp only [action?, here]
      split
      · exact move_settle here c
      · exact move_stay
  · next other =>
    have silent : f.action? s (.answered k answer) = none := by
      cases answer with
      | error e => rfl
      | ok c => simp only [action?]
    rw [silent]
    exact move_stay

/-- The deadline of a transfer is a move. -/
theorem move_expired (k : Nat) : Move s f none (f.expired s k) := by
  unfold expired
  split
  · next here =>
    split
    · exact .lapse here
    · exact move_stay
  · exact move_stay

/-! ## Every event, every sequence of events -/

/-- **Every event is a move with its action.** -/
theorem move_step (s : Setup) (f : Funder) (e : Event) : Move s f (f.action? s e) (f.step s e) := by
  cases e with
  | request worker => exact .request worker
  | begin k => exact move_begin k
  | quoted k answer => exact move_quoted k answer
  | granted k => exact move_granted k
  | sent k answer => exact move_sent k answer
  | resynced k answer => exact move_resynced k answer
  | answered k answer => exact move_answered k answer
  | expired k => exact move_expired k
  | pass time => exact .rest

theorem awaiting_of_received {e : Event} {o : Offer} {c : Confirmation}
    (h : f.action? s e = some (.received k o c)) : ∃ t since, f.stage? k = some (.awaiting o t since) := by
  have m := move_step s f e
  rw [h] at m
  generalize f.step s e = f' at m
  cases m with
  | receive here => exact ⟨_, _, here⟩

/-- **What holds at the start and is kept by every move holds after every sequence of events**, of the funder and its
trace. -/
theorem after_induction {P : Funder → List Action → Prop} (start : P f [])
    (move : ∀ {f ds d f'}, P f ds → Move s f d f' → P f' (ds ++ d.toList)) (events : List Event) :
    P (f.after s events) (f.trace s events) := by
  have along : ∀ (events : List Event) (f : Funder) (ds : List Action), P f ds →
      P (f.after s events) (ds ++ f.trace s events) := by
    intro events
    induction events with
    | nil => intro f ds h; simpa [after, trace] using h
    | cons e events ih =>
      intro f ds h
      have next := ih _ _ (move h (move_step s f e))
      simpa [after, trace, List.append_assoc] using next
  simpa using along events f [] start

end Funder

/-! ## The lock -/

/-- **The lock is with the transfer that is sending.** -/
def Locked (f : Funder) : Prop := ∀ k st, f.stage? k = some st → st.isSending → f.holder = some k

namespace Locked

variable {s : Setup} {f f' : Funder} {k : Nat} {a b : Stage}

theorem start (registry : Registry) (pool : Pool) (now : Nat) : Locked (Funder.start registry pool now) := by
  intro k st there
  simp [Funder.start, Funder.stage?] at there

/-- While the lock is free or with a transfer that is idle, none is sending. -/
theorem alone (h : Locked f) (here : f.stage? k = some a) (idle : a.isIdle)
    (mine : f.holder = none ∨ f.holder = some k) {j : Nat} {st : Stage} (there : f.stage? j = some st) :
    st.isSending = false := by
  rw [← Bool.not_eq_true]
  intro sending
  have holder := h j st there sending
  rcases mine with free | mine
  · rw [free] at holder
    cases holder
  · rw [mine] at holder
    cases holder
    rw [here] at there
    cases there
    rw [Stage.isSending_of_isIdle idle] at sending
    cases sending

/-- While a transfer is sending, no other one is. -/
theorem others (h : Locked f) (here : f.stage? k = some a) (sending : a.isSending) {j : Nat} {st : Stage}
    (other : k ≠ j) (there : f.stage? j = some st) : st.isSending = false := by
  rw [← Bool.not_eq_true]
  intro sending'
  have same : some k = some j := (h k a here sending).symm.trans (h j st there sending')
  exact other (Option.some.inj same)

/-- A transfer that moves on without the lock keeps it where it is. -/
theorem stay (h : Locked f) (here : f.stage? k = some a) (reached : f'.transfers = (f.reach k b).transfers)
    (holder : f'.holder = f.holder) (onward : b.isSending → a.isSending) : Locked f' := by
  intro j st there sending
  rw [holder]
  rcases Funder.mine_or_old here reached there with ⟨rfl, rfl⟩ | ⟨-, old⟩
  · exact h k a here (onward sending)
  · exact h j st old sending

/-- A transfer that is done sending hands the lock on. -/
theorem leave (others : ∀ j st, k ≠ j → f.stage? j = some st → st.isSending = false) (here : f.stage? k = some a)
    (reached : f'.transfers = (f.reach k b).transfers) (mine : b.isSending → f'.holder = some k) : Locked f' := by
  intro j st there sending
  rcases Funder.mine_or_old here reached there with ⟨rfl, rfl⟩ | ⟨other, old⟩
  · exact mine sending
  · rw [others j st other old] at sending
    cases sending

/-- **Every move keeps the lock.** -/
theorem move (h : Locked f) {d : Option Action} (m : Move s f d f') : Locked f' := by
  cases m with
  | rest => exact h
  | request worker =>
    intro j st there sending
    rcases Funder.stage?_request rfl there with old | rfl
    · exact h j st old sending
    · cases sending
  | wait here idle waits =>
    refine h.stay here rfl rfl fun sending => ?_
    rw [Stage.isSending_of_isIdle waits] at sending
    cases sending
  | refuse here idle mine | unsigned here idle mine =>
    exact leave (fun j st _ => h.alone here idle mine) here rfl nofun
  | sign here idle mine =>
    exact leave (fun j st _ => h.alone here idle mine) here rfl fun _ => rfl
  | accept here => exact leave (fun j st => h.others here rfl) here rfl nofun
  | reject here => exact h.stay here rfl rfl fun _ => rfl
  | reread here => exact leave (fun j st => h.others here rfl) here rfl nofun
  | receive here => exact h.stay here rfl rfl nofun
  | lapse here => exact h.stay here rfl rfl nofun

end Locked

end TxLoad.Funding
