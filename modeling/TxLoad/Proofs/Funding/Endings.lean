import TxLoad.Proofs.Funding.Played
import Mathlib.Data.List.Basic

/-!
# The order in which transfers end

- `Funder.endings` lists the transfers that a sequence of events ends, in the order in which they end, with their
  results; a transfer that is over stays over (`result?_after`), so each of them ends once (`endings_nodup`), and those
  that end are those that were not over before and are over afterwards (`mem_endings`);
- **a simulation records the transfers in the order in which they end** (`play_recorded`), and its results are those of
  the endings (`results_of_recorded`).
-/

namespace TxLoad.Funding

namespace Funder

variable {s : Setup} {f : Funder} {k : Nat} {r : Except Failure Confirmation}

/-- A transfer has a result if it is over. -/
theorem result?_eq_some : f.result? k = some r ↔ f.stage? k = some (.done r) := by
  unfold result?
  constructor
  · intro h
    split at h
    · next there =>
      cases h
      exact there
    · cases h
  · intro h
    rw [h]

theorem result?_eq_none {a : Stage} (here : f.stage? k = some a) (onward : a.isDone = false) : f.result? k = none := by
  rw [Option.eq_none_iff_forall_ne_some]
  intro r finished
  cases here.symm.trans (result?_eq_some.1 finished)
  cases onward

/-- **A transfer that is over stays over**, with its result. -/
theorem result?_step (finished : f.result? k = some r) (e : Event) : (f.step s e).result? k = some r := by
  rw [result?_eq_some] at finished ⊢
  cases about : e.transfer? with
  | none =>
    cases e with
    | request worker => exact stage?_request_of_some rfl finished
    | pass time => exact finished
    | _ => cases about
  | some j =>
    rcases transition_step s f about with same | ⟨a, b, here, p⟩
    · rwa [same]
    · rw [p.stage? here]
      split
      · next mine =>
        subst mine
        cases here.symm.trans finished
        cases p.onward
      · exact finished

/-- An event leaves the results of other transfers alone. -/
theorem result?_step_of_other {e : Event} (other : e.transfer? ≠ some k) : (f.step s e).result? k = f.result? k := by
  cases there : f.result? k with
  | some r => exact result?_step there e
  | none =>
    rw [Option.eq_none_iff_forall_ne_some] at there ⊢
    intro r finished
    rw [result?_eq_some] at finished
    refine there r (result?_eq_some.2 ?_)
    cases about : e.transfer? with
    | none =>
      cases e with
      | request worker =>
        rcases @stage?_request f _ worker rfl k _ finished with old | new
        · exact old
        · cases new
      | pass time => exact finished
      | _ => cases about
    | some j =>
      rcases transition_step s f about with same | ⟨a, b, here, p⟩
      · rwa [same] at finished
      · rw [p.stage? here, if_neg] at finished
        · exact finished
        · rintro rfl
          exact other about

theorem result?_after (finished : f.result? k = some r) (events : List Event) : (f.after s events).result? k = some r :=
  after_kept (P := fun g => g.result? k = some r) (fun _ known => result?_step known _) finished

/-! ## Endings -/

/-- The transfer that an event ends, with its result. -/
def ended? (s : Setup) (f : Funder) (e : Event) : Option (Nat × Except Failure Confirmation) :=
  e.transfer?.bind fun k => match f.result? k with
    | none => ((f.step s e).result? k).map (k, ·)
    | some _ => none

/-- The transfers that a sequence of events ends, in the order in which they end, with their results. -/
def endings (s : Setup) : Funder → List Event → List (Nat × Except Failure Confirmation)
  | _, [] => []
  | f, e :: events => (f.ended? s e).toList ++ endings s (f.step s e) events

/-- An event ends a transfer that it is about, that was not over and is over then. -/
theorem ended?_eq_some {e : Event} :
    f.ended? s e = some (k, r) ↔ e.transfer? = some k ∧ f.result? k = none ∧ (f.step s e).result? k = some r := by
  unfold ended?
  constructor
  · intro h
    obtain ⟨j, about, h⟩ := Option.bind_eq_some_iff.1 h
    split at h
    · next before =>
      obtain ⟨r', after, same⟩ := Option.map_eq_some_iff.1 h
      cases same
      exact ⟨about, before, after⟩
    · cases h
  · rintro ⟨about, before, after⟩
    rw [about]
    show (match f.result? k with
      | none => ((f.step s e).result? k).map (k, ·)
      | some _ => none) = some (k, r)
    rw [before, after]
    rfl

/-- What ends later ends after what ended before. -/
theorem endings_append (s : Setup) (f : Funder) (events events' : List Event) :
    f.endings s (events ++ events') = f.endings s events ++ (f.after s events).endings s events' := by
  induction events generalizing f with
  | nil => rfl
  | cons e events ih =>
    rw [List.cons_append, endings, endings, ih, List.append_assoc]
    rfl

/-- **What ends is what was not over before and is over afterwards.** -/
theorem mem_endings {events : List Event} :
    (k, r) ∈ f.endings s events ↔ f.result? k = none ∧ (f.after s events).result? k = some r := by
  induction events generalizing f with
  | nil =>
    constructor
    · intro mem
      cases mem
    · rintro ⟨before, after⟩
      cases before.symm.trans after
  | cons e events ih =>
    rw [endings, List.mem_append, Option.mem_toList, ended?_eq_some, ih]
    constructor
    · rintro (⟨-, before, finished⟩ | ⟨before, finished⟩)
      · exact ⟨before, result?_after finished events⟩
      · refine ⟨?_, finished⟩
        cases there : f.result? k with
        | none => rfl
        | some r' => cases before.symm.trans (result?_step there e)
    · rintro ⟨before, finished⟩
      cases there : (f.step s e).result? k with
      | none => exact .inr ⟨rfl, finished⟩
      | some r' =>
        obtain rfl : r' = r := Option.some.inj ((result?_after there events).symm.trans finished)
        refine .inl ⟨?_, before, rfl⟩
        rcases Decidable.em (e.transfer? = some k) with mine | other
        · exact mine
        · cases ((result?_step_of_other other).symm.trans there).symm.trans before

/-- **Each transfer ends once.** -/
theorem endings_nodup (s : Setup) (f : Funder) (events : List Event) : ((f.endings s events).map (·.1)).Nodup := by
  induction events generalizing f with
  | nil => exact List.nodup_nil
  | cons e events ih =>
    rw [endings, List.map_append, List.nodup_append]
    refine ⟨?_, ih (f.step s e), fun i first j later same => ?_⟩
    · cases f.ended? s e <;> simp
    · obtain ⟨p, ended, rfl⟩ := List.mem_map.1 first
      obtain ⟨q, mem, rfl⟩ := List.mem_map.1 later
      obtain ⟨-, -, finished⟩ := ended?_eq_some.1 (Option.mem_toList.1 ended)
      obtain ⟨before, -⟩ := mem_endings.1 mem
      rw [← same] at before
      cases before.symm.trans finished

end Funder

/-! ## Records -/

namespace Simulation

variable {s : Setup} {h : Simulation} {f : Funder} {k : Nat}

/-- No event asks for other transfers. -/
theorem asked_event (s : Setup) (h : Simulation) (k : Nat) (e : Event) : (h.event s k e).asked = h.asked := by
  have advanced : (h.advanced s e).asked = h.asked := by
    unfold Simulation.advanced
    dsimp only
    split <;> rfl
  have closed (g : Simulation) : (g.close k).asked = g.asked := by
    unfold close
    dsimp only
    split <;> rfl
  rw [event_eq]
  split
  · rw [closed, advanced]
  · exact advanced

/-- An event that ends a transfer is recorded. -/
theorem ended_event {e : Event} (about : e.transfer? = some k) :
    (h.event s k e).ended = h.ended ++ (h.funder.ended? s e).toList.map (·.1) := by
  have advanced : (h.advanced s e).ended = h.ended := by
    unfold Simulation.advanced
    dsimp only
    split <;> rfl
  have closed (g : Simulation) : (g.close k).ended = g.ended ++ [k] := by
    unfold close
    dsimp only
    split <;> rfl
  have unchanged (none : h.funder.ended? s e = none) : h.ended = h.ended ++ (h.funder.ended? s e).toList.map (·.1) := by
    rw [none, Option.toList_none, List.map_nil, List.append_nil]
  rw [event_eq]
  split
  · next ends =>
    obtain ⟨r, finished⟩ := Option.ne_none_iff_exists'.1 ends.2
    have told : h.funder.ended? s e = some (k, r) := Funder.ended?_eq_some.2 ⟨about, ends.1, finished⟩
    rw [closed, advanced, told]
    rfl
  · next stays =>
    rw [advanced]
    refine unchanged (Option.eq_none_iff_forall_ne_some.2 fun p told => stays ?_)
    obtain ⟨same, before, finished⟩ := Funder.ended?_eq_some.1 told
    cases about.symm.trans same
    exact ⟨before, Option.ne_none_iff_exists'.2 ⟨_, finished⟩⟩

/-- The transfers that were asked for, the events that were played, which ask for no others, and the transfers that
these ended, in order. -/
structure Recorded (s : Setup) (f : Funder) (asked : List Nat) (events : List Event) (h : Simulation) : Prop where
  asked : h.asked = asked
  noRequest : ∀ worker, .request worker ∉ events
  funder : h.funder = f.after s events
  ended : h.ended = (f.endings s events).map (·.1)

/-- Playing records what ends. -/
theorem kept_recorded (s : Setup) (f : Funder) (asked : List Nat) :
    Kept s fun h => ∃ events, h.Recorded s f asked events where
  quiet net scheduler := fun ⟨events, r⟩ => ⟨events, r.asked, r.noRequest, r.funder, r.ended⟩
  event {h k e} about := by
    rintro ⟨events, r⟩
    refine ⟨events ++ [e], ?_, fun worker mem => ?_, ?_, ?_⟩
    · rw [asked_event, r.asked]
    · rcases List.mem_append.1 mem with old | new
      · exact r.noRequest worker old
      · cases List.mem_singleton.1 new
        cases about
    · rw [funder_event, r.funder, Funder.after_concat]
    · rw [ended_event about, r.ended, r.funder, Funder.endings_append, List.map_append]
      rw [Funder.endings, Funder.endings, List.append_nil]
  pass {h} time := by
    rintro ⟨events, r⟩
    refine ⟨events ++ [.pass time], r.asked, fun worker mem => ?_, ?_, ?_⟩
    · rcases List.mem_append.1 mem with old | new
      · exact r.noRequest worker old
      · cases List.mem_singleton.1 new
    · rw [Funder.after_concat, ← r.funder]
      rfl
    · rw [Funder.endings_append, List.map_append, ← r.ended]
      exact (List.append_nil _).symm

/-- **A simulation records the transfers in the order in which they end.** -/
theorem play_recorded (s : Setup) (limit : Option Nat) (h : Simulation) (fresh : h.ended = []) :
    ∃ events, (h.play s limit).Recorded s h.funder h.asked events :=
  (kept_recorded s h.funder h.asked).play limit ⟨[], rfl, fun _ => List.not_mem_nil, rfl, fresh⟩

/-- The results of a simulation are those of the endings, in order. -/
theorem results_of_recorded {asked : List Nat} {events : List Event} (r : h.Recorded s f asked events) :
    h.results = (f.endings s events).map (·.2) := by
  unfold results
  rw [r.ended, List.filterMap_map, List.filterMap_congr (g := some ∘ Prod.snd), List.filterMap_eq_map]
  intro p mem
  obtain ⟨-, finished⟩ := Funder.mem_endings.1 (show (p.1, p.2) ∈ _ from mem)
  show h.funder.result? p.1 = some p.2
  rw [r.funder, finished]

end Simulation

end TxLoad.Funding
