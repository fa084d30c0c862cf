import TxLoad.Proofs.Run.Move

/-!
# Where the dispatches of a run stand

- `Standing` is the class of a dispatch, `Run.standing?` the one of dispatch `i`, and `Run.tally` how many dispatches
  a class has;
- `Transition` is what a move can do to the class of one dispatch, with what it does to the counters and to the gate at
  the same time (`Move.transition`).
-/

namespace TxLoad.Dispatch

/-- Where a dispatch stands. -/
inductive Standing where
  | dispatching
  | failed
  | tracking
  | confirmed
  | reverted
  | lost
  | expired
  | broken
deriving DecidableEq

/-- Where a transaction stands after its verdict. -/
def Verdict.standing : Verdict → Standing
  | settled c => if c.success then .confirmed else .reverted
  | lost _ => .lost
  | expired => .expired

theorem Verdict.standing_ne (v : Verdict) : v.standing ≠ .dispatching ∧ v.standing ≠ .tracking := by
  cases v with
  | settled c => cases h : c.success <;> simp [standing, h]
  | lost e => simp [standing]
  | expired => simp [standing]

theorem Verdict.standing_ne_broken (v : Verdict) : v.standing ≠ .broken := by
  cases v with
  | settled c => cases h : c.success <;> simp [standing, h]
  | lost e => simp [standing]
  | expired => simp [standing]

/-- Where a dispatch stands at a stage. -/
def Stage.standing : Stage → Standing
  | admitted | quoting _ _ | sending _ _ _ => .dispatching
  | submitted _ | watching _ => .tracking
  | failed _ => .failed
  | closed _ v => v.standing
  | broken _ => .broken

namespace Stage

theorem isDispatching_eq (st : Stage) : st.isDispatching = decide (st.standing = .dispatching) := by
  cases st with
  | closed p v => simp [isDispatching, standing, v.standing_ne.1]
  | _ => simp [isDispatching, standing]

theorem isTracking_eq (st : Stage) : st.isTracking = decide (st.standing = .tracking) := by
  cases st with
  | closed p v => simp [isTracking, standing, v.standing_ne.2]
  | _ => simp [isTracking, standing]

theorem standing_of_isUnassembled {st : Stage} (h : st.isUnassembled) : st.standing = .dispatching := by
  cases st <;> first | rfl | cases h

/-- Only a dispatch that is dispatching can fail. -/
theorem standing_of_spends {st : Stage} {workers workers' : Array Account} {loss : Option (Nat × Nat)}
    (h : Spends workers st loss workers') : st.standing = .dispatching := by
  cases h with
  | nothing early => exact standing_of_isUnassembled early
  | unsigned early => exact standing_of_isUnassembled early
  | refused => rfl

end Stage

/-! ## Tallies -/

/-- A change of one stage changes a count by that stage alone. -/
theorem countP_reach (p : Stage → Bool) {jobs : Array Stage} {i : Nat} {a : Stage} (here : jobs[i]? = some a)
    (b : Stage) :
    (jobs.setIfInBounds i b).countP p + (if p a then 1 else 0) = jobs.countP p + if p b then 1 else 0 := by
  obtain ⟨lt, rfl⟩ := Array.getElem?_eq_some_iff.1 here
  have le := Array.boole_getElem_le_countP (p := p) lt
  rw [Array.setIfInBounds, dif_pos lt, Array.countP_set lt]
  omega

namespace Run

variable {s : Setup} {r r' : Run}

/-- Where dispatch `i` stands. -/
def standing? (r : Run) (i : Nat) : Option Standing := r.jobs[i]?.map Stage.standing

/-- The number of dispatches that stand at `c`. -/
def tally (r : Run) (c : Standing) : Nat := r.jobs.countP (·.standing = c)

theorem tally_of_push (h : r'.jobs = r.jobs.push .admitted) (c : Standing) :
    r'.tally c = r.tally c + if .dispatching = c then 1 else 0 := by
  rw [tally, tally, h, Array.countP_push]
  simp only [decide_eq_true_eq]
  rfl

/-- A dispatch that moves leaves one class for another. -/
theorem tally_of_set {i : Nat} {a b : Stage} {x y : Standing} (here : r.jobs[i]? = some a)
    (h : r'.jobs = r.jobs.setIfInBounds i b) (old : a.standing = x) (new : b.standing = y) (c : Standing) :
    r'.tally c + (if x = c then 1 else 0) = r.tally c + if y = c then 1 else 0 := by
  subst old new
  have shift := countP_reach (·.standing = c) here b
  simp only [decide_eq_true_eq] at shift
  rw [tally, tally, h]
  exact shift

theorem tally_of_stay {i : Nat} {a : Stage} (here : r.jobs[i]? = some a) (b : Stage) (same : b.standing = a.standing)
    (h : r'.jobs = r.jobs.setIfInBounds i b) (c : Standing) : r'.tally c = r.tally c := by
  have := tally_of_set here h rfl same c
  omega

theorem tally_pos {i : Nat} {c : Standing} (h : r.standing? i = some c) : 0 < r.tally c := by
  obtain ⟨a, here, rfl⟩ := Option.map_eq_some_iff.1 h
  rw [tally, Array.countP_pos_iff]
  exact ⟨a, Array.mem_of_getElem? here, by simp⟩

theorem tally_of_idle (h : r.anyDispatching = false) : r.tally .dispatching = 0 := by
  rw [tally, Array.countP_eq_zero]
  intro st member
  rw [← Stage.isDispatching_eq]
  exact Array.any_eq_false'.1 h st member

theorem tally_of_settled (h : r.anyTracking = false) : r.tally .tracking = 0 := by
  rw [tally, Array.countP_eq_zero]
  intro st member
  rw [← Stage.isTracking_eq]
  exact Array.any_eq_false'.1 h st member

/-- Where the dispatches stand after one of them has moved. -/
theorem standing?_of_set {i : Nat} {a b : Stage} (here : r.jobs[i]? = some a)
    (h : r'.jobs = r.jobs.setIfInBounds i b) (j : Nat) :
    r'.standing? j = if i = j then some b.standing else r.standing? j := by
  rw [standing?, standing?, h]
  split
  · next same => rw [← same, getElem?_reach here b]; rfl
  · next other => rw [Array.getElem?_setIfInBounds_ne other]

end Run

/-! ## What a move does to the class of a dispatch -/

/-- What a move can do to the class of one dispatch. A failure gives the slot back when the dispatch is no more in
flight; a submission keeps the slot, and the end of the watch gives it back, be it a verdict or not. -/
inductive Transition (r r' : Run) : Option Standing → Option Standing → Prop
  | stay {x : Option Standing} : Transition r r' x x
  | begin : Transition r r' none (some .dispatching)
  | fail (c : Context) (counters : c.counters = r.context.counters.finish false) (gate : c.gate = r.context.gate)
      (released : r'.context = c.release) : Transition r r' (some .dispatching) (some .failed)
  | submit (counters : r'.context.counters = r.context.counters.finish true)
      (gate : r'.context.gate = r.context.gate) : Transition r r' (some .dispatching) (some .tracking)
  | settle {x : Standing} (ended : x ≠ .dispatching ∧ x ≠ .tracking)
      (counters : r'.context.counters = r.context.counters) (gate : r'.context.gate = r.context.gate.release) :
      Transition r r' (some .tracking) (some x)

namespace Move

variable {s : Setup} {r r' : Run} {d : Option Action}

/-- Every move is a transition of every dispatch. -/
theorem transition (m : Move s r d r') (j : Nat) : Transition r r' (r.standing? j) (r'.standing? j) := by
  have set {i : Nat} {a b : Stage} (here : r.jobs[i]? = some a) {r' : Run}
      (jobs : r'.jobs = r.jobs.setIfInBounds i b) (one : Transition r r' (some a.standing) (some b.standing)) :
      Transition r r' (r.standing? j) (r'.standing? j) := by
    rw [Run.standing?_of_set here jobs]
    split
    · next same =>
      have old : r.standing? j = some a.standing := by rw [← same, Run.standing?, here]; rfl
      rw [old]
      exact one
    · exact .stay
  cases m with
  | rest | queue | pace | join | conclude | abort => exact .stay
  | enter =>
    simp only [Run.standing?, Run.jobs_beginDispatch, Array.getElem?_push]
    split
    · next last =>
      rw [last, Array.getElem?_eq_none (Nat.le_refl _)]
      exact .begin
    · exact .stay
  | quote here => exact set here rfl .stay
  | assemble here early =>
    refine set here rfl ?_
    rw [Stage.standing_of_isUnassembled early]
    exact .stay
  | fail here spends =>
    refine set here rfl ?_
    rw [Stage.standing_of_spends spends]
    obtain ⟨c, counters, gate, released⟩ := r.context.abandon_eq_release s.options _
    exact .fail c counters gate released
  | submit here => exact set here rfl (.submit rfl rfl)
  | watch here => exact set here rfl .stay
  | breakOff here => exact set here rfl (.settle ⟨nofun, nofun⟩ rfl rfl)
  | @close _ _ v _ here => exact set here rfl (.settle v.standing_ne (by simp) (by simp))

end Move

end TxLoad.Dispatch
