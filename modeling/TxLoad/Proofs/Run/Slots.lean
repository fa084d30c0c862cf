import TxLoad.Proofs.Run.Ledger

/-!
# The slots of a run

A slot is taken in the admission loop, goes with the dispatch and then with its transaction, and comes back from about
ten places. None is ever lost, and none comes back twice.

- `Gate.spare` is the number of slots that nobody holds, the one that was handed to the loop included;
- `Slots` says that spare and held slots together are the capacity, and is kept by every move (`Slots.move`);
- **slots are conserved** in any order of events (`slots_conserved`).
-/

namespace TxLoad.Dispatch

/-! ## The gate -/

namespace Gate

variable {g g' : Gate}

/-- The slots that nobody holds. -/
def spare (g : Gate) : Nat := g.free + g.handed.toNat

/-- Taking a slot leaves one less. -/
theorem take?_eq (bounded : 0 < g.capacity) (h : g.take? = some g') :
    0 < g.free ∧ g' = { g with free := g.free - 1 } := by
  unfold take? at h
  rw [if_neg (by simp [Gate.bounded, bounded])] at h
  split at h
  · next free =>
    cases h
    exact ⟨free, rfl⟩
  · cases h

/-- A slot is received only when it was handed over. -/
theorem receive?_eq (h : g.receive? = some g') :
    g.handed = true ∧ g' = { g with waiting := false, handed := false } := by
  unfold receive? at h
  split at h
  · next handed =>
    cases h
    exact ⟨handed, rfl⟩
  · cases h

@[simp] theorem capacity_release (g : Gate) : g.release.capacity = g.capacity := by
  unfold release
  split
  · rfl
  · split <;> rfl

@[simp] theorem waiting_release (g : Gate) : g.release.waiting = g.waiting := by
  unfold release
  split
  · rfl
  · split <;> rfl

/-- A slot that comes free is handed over only to one who waits. -/
theorem handed_release (g : Gate) (h : g.release.handed = true) : g.handed = true ∨ g.waiting = true := by
  unfold release at h
  split at h
  · exact .inl h
  · split at h
    · next waits =>
      simp only [Bool.and_eq_true] at waits
      exact .inr waits.1
    · exact .inl h

/-- A slot that comes free is one more, whether it is handed over or not. -/
theorem spare_release (bounded : 0 < g.capacity) : g.release.spare = g.spare + 1 := by
  unfold release
  rw [if_neg (by simp [Gate.bounded, bounded])]
  split
  · next waits =>
    have handed : g.handed = false := by simpa using (Bool.and_eq_true_iff.1 waits).2
    simp [spare, handed]
  · simp only [spare]
    omega

theorem spare_giveUp (g : Gate) : g.giveUp.spare = g.spare := rfl

end Gate

/-! ## Slots that are held -/

/-- A dispatch holds a slot until it has failed or its transaction has a verdict. -/
def Run.Holds (r : Run) (i : Nat) : Prop := r.standing? i = some .dispatching ∨ r.standing? i = some .tracking

/-- The number of dispatches that hold a slot. -/
def Run.held (r : Run) : Nat := r.tally .dispatching + r.tally .tracking

/-- A dispatch that gives its slot back is one less that holds one. -/
theorem Run.held_of_set {r r' : Run} {i : Nat} {a b : Stage} (here : r.jobs[i]? = some a)
    (jobs : r'.jobs = r.jobs.setIfInBounds i b) (old : a.standing = .dispatching ∨ a.standing = .tracking)
    (new : b.standing ≠ .dispatching ∧ b.standing ≠ .tracking) : r'.held + 1 = r.held := by
  have dispatching := Run.tally_of_set here jobs rfl rfl .dispatching
  have tracking := Run.tally_of_set here jobs rfl rfl .tracking
  rw [if_neg new.1] at dispatching
  rw [if_neg new.2] at tracking
  simp only [Run.held]
  rcases old with old | old <;> simp only [old, reduceCtorEq, if_true, if_false] at dispatching tracking <;> omega

/-- A dispatch that goes on and keeps its slot changes nothing. -/
theorem Run.held_of_stay {r r' : Run} {i : Nat} {a b : Stage} (here : r.jobs[i]? = some a)
    (jobs : r'.jobs = r.jobs.setIfInBounds i b) (old : a.standing = .dispatching ∨ a.standing = .tracking)
    (new : b.standing = .dispatching ∨ b.standing = .tracking) : r'.held = r.held := by
  have dispatching := Run.tally_of_set here jobs rfl rfl .dispatching
  have tracking := Run.tally_of_set here jobs rfl rfl .tracking
  simp only [Run.held]
  rcases old with old | old <;> rcases new with new | new <;>
    simp only [old, new, reduceCtorEq, if_true, if_false] at dispatching tracking <;> omega

/-- **Spare and held slots are the capacity**, and only a loop that waits is handed a slot. -/
structure Slots (capacity : Nat) (r : Run) : Prop where
  size : r.context.gate.capacity = capacity
  conserved : r.context.gate.spare + r.held = capacity
  waiting : r.context.gate.waiting = true → r.main = .waiting
  handed : r.context.gate.handed = true → r.context.gate.waiting = true

namespace Slots

variable {s : Setup} {capacity : Nat} {r r' : Run}

theorem start (s : Setup) (pool : Pool) (registry : Registry) (now : Nat) :
    Slots (min s.options.maxPending Gate.maxCapacity) (Run.start s pool registry now) where
  size := rfl
  conserved := rfl
  waiting h := by cases h
  handed h := by cases h

theorem nothing_handed (h : Slots capacity r) (main : r.main ≠ .waiting) : r.context.gate.handed = false := by
  cases handed : r.context.gate.handed with
  | false => rfl
  | true => exact absurd (h.waiting (h.handed handed)) main

theorem not_waiting (h : Slots capacity r) (main : r.main ≠ .waiting) : r.context.gate.waiting = false := by
  cases waiting : r.context.gate.waiting with
  | false => rfl
  | true => exact absurd (h.waiting waiting) main

/-- Where neither the gate nor the held slots change, nothing is lost. -/
theorem frame (h : Slots capacity r) (gate : r'.context.gate = r.context.gate) (held : r'.held = r.held)
    (main : r'.main = r.main ∨ r.main ≠ .waiting) : Slots capacity r' where
  size := by rw [gate]; exact h.size
  conserved := by rw [gate, held]; exact h.conserved
  waiting waits := by
    rw [gate] at waits
    rcases main with same | other
    · rw [same]
      exact h.waiting waits
    · exact absurd (h.waiting waits) other
  handed := by rw [gate]; exact h.handed

/-- Every slot that is given back comes free. -/
theorem release (h : Slots capacity r) (bounded : 0 < capacity) (gate : r'.context.gate = r.context.gate.release)
    (held : r'.held + 1 = r.held) (main : r'.main = r.main) : Slots capacity r' where
  size := by rw [gate, Gate.capacity_release]; exact h.size
  conserved := by
    have spare := Gate.spare_release (g := r.context.gate) (by rw [h.size]; exact bounded)
    have conserved := h.conserved
    rw [gate, spare]
    omega
  waiting := by rw [gate, Gate.waiting_release, main]; exact h.waiting
  handed handed := by
    rw [gate] at handed ⊢
    rw [Gate.waiting_release]
    exact (Gate.handed_release _ handed).elim h.handed id

/-- An admission turns a spare slot into one that is held. -/
theorem enter (h : Slots capacity r) (bounded : 0 < capacity) {gate : Gate} (enters : r.Enters gate) :
    Slots capacity (r.beginDispatch s gate) := by
  have held : (r.beginDispatch s gate).held = r.held + 1 := by
    have dispatching := Run.tally_of_push (Run.jobs_beginDispatch (s := s) (r := r) gate) .dispatching
    have tracking := Run.tally_of_push (Run.jobs_beginDispatch (s := s) (r := r) gate) .tracking
    simp only [reduceCtorEq, if_true, if_false] at dispatching tracking
    simp only [Run.held]
    omega
  have conserved := h.conserved
  -- a free slot is taken by a loop that does not wait, one that was handed over by one that does
  rcases enters with ⟨main, take⟩ | ⟨main, receive⟩
  · obtain ⟨free, rfl⟩ := Gate.take?_eq (by rw [h.size]; exact bounded) take
    have idle := h.not_waiting (by simp [main])
    refine ⟨h.size, ?_, fun waits => ?_, h.handed⟩
    · rw [held]
      simp only [Gate.spare, Run.beginDispatch, Context.begin] at conserved ⊢
      omega
    · exact absurd waits (by simp [Run.beginDispatch, Context.begin, idle])
  · obtain ⟨handed, rfl⟩ := Gate.receive?_eq receive
    refine ⟨h.size, ?_, fun waits => ?_, fun handed => ?_⟩
    · rw [held]
      simp only [Gate.spare, Run.beginDispatch, Context.begin, handed, Bool.toNat_true, Bool.toNat_false] at conserved ⊢
      omega
    · cases waits
    · cases handed

/-- **Every move conserves the slots.** -/
theorem move (h : Slots capacity r) (bounded : 0 < capacity) {d : Option Action} (m : Move s r d r') :
    Slots capacity r' := by
  cases m with
  | rest => exact h.frame rfl rfl (.inl rfl)
  | enter calm enters => exact h.enter bounded enters
  | queue calm main =>
    exact ⟨h.size, h.conserved, fun _ => rfl, fun _ => rfl⟩
  | pace calm main => exact h.frame rfl rfl (.inr (by simp [main]))
  | join calm main => exact h.frame rfl rfl (.inr (by simp [main]))
  | conclude calm main => exact h.frame rfl rfl (.inr (by simp [main]))
  | abort =>
    refine ⟨h.size, ?_, fun waits => (by cases waits), fun handed => (by cases handed)⟩
    exact (congrArg (· + r.held) (Gate.spare_giveUp _)).trans h.conserved
  | quote here => exact h.frame rfl (Run.held_of_stay here rfl (.inl rfl) (.inl rfl)) (.inl rfl)
  | assemble here early =>
    have live := Stage.standing_of_isUnassembled early
    exact h.frame rfl (Run.held_of_stay here rfl (.inl live) (.inl rfl)) (.inl rfl)
  | fail here spends =>
    have live := Stage.standing_of_spends spends
    exact h.release bounded (by simp) (Run.held_of_set here rfl (.inl live) (by simp [Stage.standing])) rfl
  | submit here => exact h.frame rfl (Run.held_of_stay here rfl (.inl rfl) (.inr rfl)) (.inl rfl)
  | watch here => exact h.frame rfl (Run.held_of_stay here rfl (.inr rfl) (.inr rfl)) (.inl rfl)
  | breakOff here => exact h.release bounded rfl (Run.held_of_set here rfl (.inr rfl) (by simp [Stage.standing])) rfl
  | close here =>
    exact h.release bounded (by simp) (Run.held_of_set here rfl (.inr rfl) (Verdict.standing_ne _)) rfl

theorem after (s : Setup) (pool : Pool) (registry : Registry) (now : Nat) (events : List Event)
    (bounded : 0 < s.options.maxPending) :
    Slots (min s.options.maxPending Gate.maxCapacity) ((Run.start s pool registry now).after s events) := by
  have some : 0 < min s.options.maxPending Gate.maxCapacity := Nat.lt_min.2 ⟨bounded, by decide⟩
  exact Run.after_induction (P := fun r _ => Slots _ r) (start s pool registry now) (fun h m => h.move some m) events

/-- However a dispatch ends, it gives one slot back. -/
theorem spare_of_end (h : Slots capacity r) (bounded : 0 < capacity) (e : Event) {i : Nat} (holds : r.Holds i)
    (gone : ¬ (r.step s e).Holds i) : (r.step s e).context.gate.spare = r.context.gate.spare + 1 := by
  have release := Gate.spare_release (g := r.context.gate) (by rw [h.size]; exact bounded)
  have way := (Run.move_step s r e).transition i
  unfold Run.Holds at holds gone
  generalize r.standing? i = x at way holds
  generalize (r.step s e).standing? i = y at way gone
  cases way with
  | stay => exact absurd holds gone
  | begin => simp at holds
  | fail c _ gate released => rw [released, Context.release, gate, release]
  | submit => simp at gone
  | settle v _ gate => rw [gate, release]

end Slots

/-! ## Slots are conserved -/

/-- A failed dispatch is out of flight when its slot comes free. -/
theorem Ledger.release_of_fail {s : Setup} {r : Run} {ds : List Action} (h : Ledger r ds) (e : Event) {i : Nat}
    (live : r.standing? i = some .dispatching) (failed : (r.step s e).standing? i = some .failed) :
    ∃ c : Context, c.counters.inFlight + 1 = r.context.counters.inFlight ∧ c.gate = r.context.gate ∧
      (r.step s e).context = c.release := by
  have pos := h.inFlight_pos live
  have way := (Run.move_step s r e).transition i
  rw [live, failed] at way
  cases way with
  | fail c counters gate released =>
    refine ⟨c, ?_, gate, released⟩
    rw [counters]
    exact Nat.sub_add_cancel pos

/-- **Slots are conserved** after any events in any order: the free ones, those held by dispatches and by transactions
without a verdict, and at most one that was handed to the waiting loop are together the capacity. So no more than the
allowed number is ever held; whatever ends a dispatch gives one slot back, a failure not before the dispatch is out of
flight; an abort gives back what was handed over; and a run that returns a summary has all its slots free. -/
theorem slots_conserved (s : Setup) (pool : Pool) (registry : Registry) (now : Nat) (events : List Event)
    (bounded : 0 < s.options.maxPending) :
    let r := (Run.start s pool registry now).after s events
    let gate := r.context.gate
    gate.free + r.tally .dispatching + r.tally .tracking + gate.handed.toNat =
        min s.options.maxPending Gate.maxCapacity ∧
      (gate.handed = true → r.main = .waiting) ∧
      r.tally .dispatching + r.tally .tracking ≤ s.options.maxPending ∧
      (∀ e i, r.Holds i → ¬ (r.step s e).Holds i → (r.step s e).context.gate.spare = gate.spare + 1) ∧
      (∀ e i, r.standing? i = some .dispatching → (r.step s e).standing? i = some .failed →
        ∃ c : Context, c.counters.inFlight + 1 = r.context.counters.inFlight ∧ c.gate = gate ∧
          (r.step s e).context = c.release) ∧
      (∀ e, r.result? = none → r.context.fatal.first = some e →
        (r.step s .resume).context.gate.free = gate.free + gate.handed.toNat ∧
          (r.step s .resume).context.gate.handed = false) ∧
      ∀ summary, r.result? = some (.ok summary) → gate.free = min s.options.maxPending Gate.maxCapacity := by
  intro r gate
  have slots : Slots (min s.options.maxPending Gate.maxCapacity) r := Slots.after s pool registry now events bounded
  have ledger := Ledger.after s pool registry now events
  have some : 0 < min s.options.maxPending Gate.maxCapacity := Nat.lt_min.2 ⟨bounded, by decide⟩
  have conserved : gate.free + gate.handed.toNat + (r.tally .dispatching + r.tally .tracking) =
    min s.options.maxPending Gate.maxCapacity := slots.conserved
  refine ⟨?_, fun handed => slots.waiting (slots.handed handed), ?_, fun e i => slots.spare_of_end some e,
    fun e i => ledger.release_of_fail e, fun e running raised => ?_, fun summary ok => ?_⟩
  · omega
  · omega
  · rw [Run.step, Run.resume_of_raised running raised]
    exact ⟨rfl, rfl⟩
  · have ended := (Ending.after s pool registry now events).ended ok
    have idle := ended.idle
    have settled := ended.settled
    have nothing : gate.handed = false := slots.nothing_handed fun main => by
      have : r.result? = none := by rw [Run.result?, main]
      rw [this] at ok
      cases ok
    rw [idle, settled, nothing] at conserved
    exact conserved

/-- One dispatch through one slot, with no good endpoint: it fails, and the slot is free in the end. -/
theorem slots_conserved_one :
    let s : Setup := ⟨{ Options.standard with count := 1, maxPending := 1 }, .transfer none 0 false, ⟨0, 0⟩, .direct, [],
      fun _ => ⟨0, 0, 0⟩⟩
    let registry : Registry := ⟨.ofKey ⟨1, by decide, by decide⟩ 1, #[.ofKey ⟨2, by decide, by decide⟩ 1], 0⟩
    let r := (Run.start s ⟨1, [], 0⟩ registry 0).after s [.resume, .begin 0, .resume, .resume]
    0 < s.options.maxPending ∧ r.result? = some (.ok ⟨1, 0, 1, 0, 0, 0, 0, 0, 0⟩) ∧ r.context.gate.free = 1 := by
  intro s registry r
  have bounded : 0 < s.options.maxPending := by decide
  have ok : r.result? = some (.ok ⟨1, 0, 1, 0, 0, 0, 0, 0, 0⟩) := Run.result?_of_toOption (by decide +kernel)
  obtain ⟨-, -, -, -, -, -, free⟩ :=
    slots_conserved s ⟨1, [], 0⟩ registry 0 [.resume, .begin 0, .resume, .resume] bounded
  exact ⟨bounded, ok, free _ ok⟩

end TxLoad.Dispatch
