import TxLoad.Network.Receipt
import Mathlib.Tactic.Ring

/-!
# What a search for a receipt comes to

The answers to the lookups are any sequence. A lookup finds the receipt (`FoundAt`) if it is the first to do so and no five
lookups before it failed in a row; the search is given up (`GivenUpFrom`) at the end of the first five failures in a row
if no receipt came before.

- The two ends exclude each other, and there is one of each at most (`FoundAt.not_givenUp`, `FoundAt.unique`,
  `GivenUpFrom.unique`), so that each is equivalent to its result;
- `Open` says what is known while a search goes on: the failures that it remembers are the last answers, and neither of
  the two ends has come. An answer keeps to it (`Open.nothing_yet`, `Open.fail`) or brings an end (`Open.givenUp`);
- `Standing` is how a search stands after some lookups, with its clock; every lookup keeps to it (`Standing.step`);
- **a search ends with the first receipt or with the first five failures in a row**, and takes its time
  (`search_exact`): between two lookups it waits as long as configured, but no more than thirty years
  (`search_cut_short`).
-/

namespace TxLoad.Network

open Search (maxFailures)

/-! ## The two ends of a search -/

/-- A lookup that fails. -/
def Lookup.Fails (l : Lookup) : Prop := ∃ fault, l.answer = .error fault

/-- A lookup that finds a receipt. -/
def Lookup.Finds (l : Lookup) (r : Receipt) : Prop := l.answer = .ok (some r)

/-- From lookup `i` on so many lookups fail in a row as end a search. -/
def FailsFrom (lookups : Nat → Lookup) (i : Nat) : Prop := ∀ j, i ≤ j → j < i + maxFailures → (lookups j).Fails

/-- Neither a receipt nor the end of too many failures in a row has come before lookup `k`. -/
structure Quiet (lookups : Nat → Lookup) (k : Nat) : Prop where
  none : ∀ j < k, ∀ r, ¬ (lookups j).Finds r
  alive : ∀ i, i + maxFailures ≤ k → ¬ FailsFrom lookups i

/-- Lookup `k` finds the receipt `r`, which is the first, and not behind too many failures in a row. -/
structure FoundAt (lookups : Nat → Lookup) (k : Nat) (r : Receipt) : Prop extends Quiet lookups k where
  here : (lookups k).Finds r

/-- The first row of too many failures begins with lookup `i` and ends with the failure `fault`, and no receipt comes
before that. -/
structure GivenUpFrom (lookups : Nat → Lookup) (i : Nat) (fault : RequestFault) : Prop where
  fails : FailsFrom lookups i
  first : ∀ j < i, ¬ FailsFrom lookups j
  none : ∀ j < i + maxFailures, ∀ r, ¬ (lookups j).Finds r
  last : (lookups (i + maxFailures - 1)).answer = .error fault

variable {lookups : Nat → Lookup} {k m f i : Nat} {r : Receipt} {fault : RequestFault}

theorem Lookup.Fails.not_finds {l : Lookup} (h : l.Fails) (r : Receipt) : ¬ l.Finds r := by
  obtain ⟨fault, fails⟩ := h
  intro finds
  cases fails.symm.trans finds

theorem FoundAt.not_quiet (h : FoundAt lookups k r) (lt : k < m) : ¬ Quiet lookups m := fun quiet => quiet.none k lt r h.here

theorem GivenUpFrom.not_quiet (h : GivenUpFrom lookups i fault) (le : i + maxFailures ≤ m) : ¬ Quiet lookups m :=
  fun quiet => quiet.alive i le h.fails

theorem FoundAt.unique {k' : Nat} {r' : Receipt} (h : FoundAt lookups k r) (h' : FoundAt lookups k' r') : r = r' := by
  rcases Nat.lt_trichotomy k k' with lt | rfl | lt
  · exact absurd h'.toQuiet (h.not_quiet lt)
  · have same : (Except.ok (some r) : Except RequestFault _) = .ok (some r') := h.here.symm.trans h'.here
    cases same
    rfl
  · exact absurd h.toQuiet (h'.not_quiet lt)

/-- There is one first row of too many failures. -/
theorem GivenUpFrom.unique {i' : Nat} {fault' : RequestFault} (h : GivenUpFrom lookups i fault)
    (h' : GivenUpFrom lookups i' fault') : fault = fault' := by
  rcases Nat.lt_trichotomy i i' with lt | rfl | lt
  · exact absurd h.fails (h'.first i lt)
  · have same : (Except.error fault : Except _ (Option Receipt)) = .error fault' := h.last.symm.trans h'.last
    cases same
    rfl
  · exact absurd h'.fails (h.first i' lt)

theorem FoundAt.not_givenUp (h : FoundAt lookups k r) : ¬ GivenUpFrom lookups i fault := by
  intro lost
  rcases Nat.lt_or_ge k (i + maxFailures) with lt | le
  · exact lost.none k lt r h.here
  · exact h.alive i le lost.fails

/-! ## A search that goes on -/

/-- A search goes on before lookup `k`, after `f` failures in a row. -/
structure Open (lookups : Nat → Lookup) (k f : Nat) : Prop extends Quiet lookups k where
  few : f < maxFailures
  le : f ≤ k
  failing : ∀ j < k, k ≤ j + f → (lookups j).Fails
  reset : f < k → ¬ (lookups (k - f - 1)).Fails

theorem Open.zero (lookups : Nat → Lookup) : Open lookups 0 0 where
  none _ lt := absurd lt (Nat.not_lt_zero _)
  alive _ within := absurd within (by simp [maxFailures])
  few := by decide
  le := Nat.le_refl 0
  failing _ lt := absurd lt (Nat.not_lt_zero _)
  reset lt := absurd lt (Nat.lt_irrefl 0)

namespace Open

theorem le_of_row (h : Open lookups k f) (row : ∀ j, i ≤ j → j < k → (lookups j).Fails) : k ≤ i + f := by
  by_contra far
  have inside : f < k := by omega
  exact h.reset inside (row (k - f - 1) (by omega) (by omega))

/-- One more lookup without a receipt leaves a search quiet if it does not complete a row of failures. -/
theorem quiet_succ (h : Open lookups k f) (nothing : ∀ r, ¬ (lookups k).Finds r)
    (short : (lookups k).Fails → f + 1 < maxFailures) : Quiet lookups (k + 1) where
  none j lt := by
    rcases Nat.lt_succ_iff_lt_or_eq.1 lt with lt | rfl
    · exact h.none j lt
    · exact nothing
  alive i within fails := by
    rcases Nat.lt_or_eq_of_le within with lt | ends
    · exact h.alive i (Nat.le_of_lt_succ lt) fails
    · have last : (lookups k).Fails := fails k (by simp [maxFailures] at ends; omega) (by omega)
      have row := h.le_of_row (i := i) fun j ge lt => fails j ge (by omega)
      have := short last
      omega

/-- An answer without a receipt begins the count anew. -/
theorem nothing_yet (h : Open lookups k f) (empty : (lookups k).answer = .ok none) : Open lookups (k + 1) 0 := by
  have calm : ¬ (lookups k).Fails := by
    rintro ⟨fault, fails⟩
    cases empty.symm.trans fails
  exact {
    toQuiet := h.quiet_succ (fun r finds => by cases empty.symm.trans finds) fun fails => absurd fails calm
    few := by decide
    le := Nat.zero_le _
    failing := fun j lt ge => absurd lt (by omega)
    reset := fun _ => calm }

/-- A failure is counted. -/
theorem fail (h : Open lookups k f) (fails : (lookups k).Fails) (short : f + 1 < maxFailures) :
    Open lookups (k + 1) (f + 1) where
  toQuiet := h.quiet_succ fails.not_finds fun _ => short
  few := short
  le := Nat.succ_le_succ h.le
  failing j lt ge := by
    rcases Nat.lt_succ_iff_lt_or_eq.1 lt with lt | rfl
    · exact h.failing j lt (by omega)
    · exact fails
  reset lt := by
    have same : k + 1 - (f + 1) - 1 = k - f - 1 := by omega
    rw [same]
    exact h.reset (by omega)

/-- One failure too many, and the search is given up. -/
theorem givenUp (h : Open lookups k f) (fails : (lookups k).answer = .error fault) (enough : maxFailures ≤ f + 1) :
    k + 1 = k - f + maxFailures ∧ GivenUpFrom lookups (k - f) fault := by
  have few := h.few
  have le := h.le
  have ends : k + 1 = k - f + maxFailures := by omega
  refine ⟨ends, fun j ge lt => ?_, fun j lt row => ?_, fun j lt => ?_, ?_⟩
  · rcases Nat.lt_or_eq_of_le (Nat.le_of_lt_succ (ends ▸ lt)) with lt | rfl
    · exact h.failing j lt (by omega)
    · exact ⟨fault, fails⟩
  · exact h.alive j (by omega) row
  · rcases Nat.lt_or_eq_of_le (Nat.le_of_lt_succ (ends ▸ lt)) with lt | rfl
    · exact h.none j lt
    · exact Lookup.Fails.not_finds ⟨fault, fails⟩
  · rwa [← ends, Nat.add_sub_cancel]

end Open

/-! ## How a search stands -/

section Polling

variable (n : Node) (t : SignedTransaction) (since : Nat) (lookups : Nat → Lookup)

/-- The moment at which lookup `k` begins, if the search comes so far. -/
def lookupTime (k : Nat) : Nat :=
  since + ((List.range k).map fun j => (lookups j).took).sum + k * Wait.bounded n.wait

/-- Lookup `k` ends the search with a result. -/
inductive EndsAt (k : Nat) : Except Failure Confirmation → Prop
  | found (r : Receipt) (found : FoundAt lookups k r) : EndsAt k (.ok r.confirmation)
  | lost (i : Nat) (fault : RequestFault) (ends : k + 1 = i + maxFailures) (lost : GivenUpFrom lookups i fault) :
    EndsAt k (.error (Search.lost n t maxFailures fault))

/-- How a search stands after `m` lookups: it goes on, or it is over with an earlier lookup. -/
inductive Standing (m : Nat) (l : Polling) : Prop
  | going (failures : Nat) (quiet : Open lookups m failures) (search : l.search = .looking failures)
      (now : l.now = lookupTime n since lookups m) (begun : l.lookups = (List.range m).map (lookupTime n since lookups))
      (waited : l.waits = List.replicate m n.wait)
  | finished (k : Nat) (lt : k < m) (result : Except Failure Confirmation) (ends : EndsAt n t lookups k result)
      (search : l.search = .ended result) (now : l.now = lookupTime n since lookups k + (lookups k).took)
      (begun : l.lookups = (List.range (k + 1)).map (lookupTime n since lookups))
      (waited : l.waits = List.replicate k n.wait)

variable {n t since lookups}

theorem Polling.after_succ (l : Polling) (m : Nat) :
    l.after n t lookups (m + 1) = (l.after n t lookups m).step n t (lookups m) := by
  rw [after, List.range_succ, List.map_append, List.foldl_append]
  rfl

/-- A search that is over stays as it is, however many lookups could follow. -/
theorem Polling.after_of_ended {l : Polling} {result : Except Failure Confirmation}
    (finished : (l.after n t lookups k).search.result? = some result) (le : k ≤ m) :
    l.after n t lookups m = l.after n t lookups k := by
  induction m, le using Nat.le_induction with
  | base => rfl
  | succ m _ ih =>
    rw [after_succ, ih]
    cases ended : (l.after n t lookups k).search with
    | looking f => rw [ended] at finished; cases finished
    | ended result => exact step_of_ended ended _

theorem lookupTime_succ (k : Nat) :
    lookupTime n since lookups (k + 1) = lookupTime n since lookups k + (lookups k).took + Wait.bounded n.wait := by
  rw [lookupTime, List.range_succ, List.map_append, List.sum_append, lookupTime]
  simp only [List.map_singleton, List.sum_singleton]
  ring

namespace Standing

theorem start : Standing n t since lookups 0 (.start since) :=
  .going 0 (.zero lookups) rfl (by simp [lookupTime, Polling.start]) rfl rfl

/-- A lookup that leaves the search open. -/
theorem go {l : Polling} {f' : Nat} (search : l.search = .looking f) (now : l.now = lookupTime n since lookups m)
    (begun : l.lookups = (List.range m).map (lookupTime n since lookups)) (waited : l.waits = List.replicate m n.wait)
    (hears : (Search.looking f).hear n t (lookups m).answer = .looking f') (quiet : Open lookups (m + 1) f') :
    Standing n t since lookups (m + 1) (l.step n t (lookups m)) := by
  rw [Polling.step, search]
  dsimp only
  rw [hears]
  refine .going f' quiet rfl ?_ ?_ ?_
  · rw [lookupTime_succ, ← now]
    simp [Search.waits]
  · rw [List.range_succ, List.map_append, ← begun, now]
    rfl
  · rw [List.replicate_succ', ← waited]
    rfl

/-- A lookup that ends the search. -/
theorem finish {l : Polling} {result : Except Failure Confirmation} (search : l.search = .looking f)
    (now : l.now = lookupTime n since lookups m) (begun : l.lookups = (List.range m).map (lookupTime n since lookups))
    (waited : l.waits = List.replicate m n.wait)
    (hears : (Search.looking f).hear n t (lookups m).answer = .ended result) (ends : EndsAt n t lookups m result) :
    Standing n t since lookups (m + 1) (l.step n t (lookups m)) := by
  rw [Polling.step, search]
  dsimp only
  rw [hears]
  refine .finished m (Nat.lt_succ_self m) result ends rfl ?_ ?_ ?_
  · rw [now]
    simp [Search.waits]
  · rw [List.range_succ, List.map_append, ← begun, now]
    rfl
  · rw [← waited]
    exact List.append_nil _

/-- **One lookup keeps to how a search stands.** -/
theorem step {l : Polling} (h : Standing n t since lookups m l) :
    Standing n t since lookups (m + 1) (l.step n t (lookups m)) := by
  cases h with
  | finished k lt result ends search now begun waited =>
    rw [Polling.step_of_ended search]
    exact .finished k (Nat.lt_succ_of_lt lt) result ends search now begun waited
  | going f quiet search now begun waited =>
    cases answer : (lookups m).answer with
    | ok found =>
      cases found with
      | none => exact go search now begun waited (by rw [answer]; rfl) (quiet.nothing_yet answer)
      | some r => exact finish search now begun waited (by rw [answer]; rfl) (.found r ⟨quiet.toQuiet, answer⟩)
    | error fault =>
      by_cases enough : maxFailures ≤ f + 1
      · obtain ⟨ends, lost⟩ := quiet.givenUp answer enough
        have count : f + 1 = maxFailures := Nat.le_antisymm quiet.few enough
        refine finish search now begun waited ?_ (.lost _ fault ends lost)
        rw [answer, Search.hear, if_pos enough, count]
      · refine go search now begun waited ?_ (quiet.fail ⟨fault, answer⟩ (Nat.lt_of_not_le enough))
        rw [answer, Search.hear, if_neg enough]

/-- **How a search stands after any number of lookups.** -/
theorem after (m : Nat) : Standing n t since lookups m ((Polling.start since).after n t lookups m) := by
  induction m with
  | zero => exact start
  | succ m ih =>
    rw [Polling.after_succ]
    exact ih.step

/-! ## Results -/

variable {l : Polling}

/-- A search has no result as long as it is quiet. -/
theorem result?_eq_none_iff (h : Standing n t since lookups m l) : l.search.result? = none ↔ Quiet lookups m := by
  cases h with
  | going f quiet search => exact iff_of_true (by rw [search]; rfl) quiet.toQuiet
  | finished k lt result ends search =>
    refine iff_of_false (by rw [search]; nofun) ?_
    cases ends with
    | found r found => exact found.not_quiet lt
    | lost i fault ends lost => exact lost.not_quiet (by omega)

/-- A search that is over ended with an earlier lookup. -/
theorem endsAt (h : Standing n t since lookups m l) {result : Except Failure Confirmation}
    (finished : l.search.result? = some result) : ∃ k < m, EndsAt n t lookups k result := by
  cases h with
  | going f quiet search => rw [search] at finished; cases finished
  | finished k lt result ends search =>
    rw [search] at finished
    cases finished
    exact ⟨k, lt, ends⟩

/-- The result is a confirmation exactly if the receipt was found. -/
theorem result?_eq_ok_iff (h : Standing n t since lookups m l) {c : Confirmation} :
    l.search.result? = some (.ok c) ↔ ∃ k < m, ∃ r, FoundAt lookups k r ∧ r.confirmation = c := by
  constructor
  · intro finished
    obtain ⟨k, lt, ends⟩ := h.endsAt finished
    cases ends with
    | found r found => exact ⟨k, lt, r, found, rfl⟩
  · rintro ⟨k, lt, r, found, rfl⟩
    obtain ⟨result, finished⟩ : ∃ result, l.search.result? = some result :=
      Option.ne_none_iff_exists'.1 fun none => found.not_quiet lt (h.result?_eq_none_iff.1 none)
    rw [finished]
    obtain ⟨k', -, ends⟩ := h.endsAt finished
    cases ends with
    | found r' found' => rw [found.unique found']
    | lost i fault ends lost => exact absurd lost found.not_givenUp

/-- The result is a failure exactly if the search was given up. -/
theorem result?_eq_error_iff (h : Standing n t since lookups m l) {e : Failure} :
    l.search.result? = some (.error e) ↔
      ∃ i fault, i + maxFailures ≤ m ∧ GivenUpFrom lookups i fault ∧ Search.lost n t maxFailures fault = e := by
  constructor
  · intro finished
    obtain ⟨k, lt, ends⟩ := h.endsAt finished
    cases ends with
    | lost i fault ends lost => exact ⟨i, fault, by omega, lost, rfl⟩
  · rintro ⟨i, fault, le, lost, rfl⟩
    obtain ⟨result, finished⟩ : ∃ result, l.search.result? = some result :=
      Option.ne_none_iff_exists'.1 fun none => lost.not_quiet le (h.result?_eq_none_iff.1 none)
    rw [finished]
    obtain ⟨k', -, ends⟩ := h.endsAt finished
    cases ends with
    | found r found => exact absurd lost found.not_givenUp
    | lost i' fault' ends lost' => rw [lost.unique lost']

/-- How a search stands with the lookup that ends it. -/
theorem at_end (h : Standing n t since lookups (k + 1) l) (quiet : Quiet lookups k) (finished : l.search.result? ≠ none) :
    l.now = lookupTime n since lookups k + (lookups k).took ∧
      l.lookups = (List.range (k + 1)).map (lookupTime n since lookups) ∧ l.waits = List.replicate k n.wait := by
  cases h with
  | going f _ search => rw [search] at finished; exact absurd rfl finished
  | finished k' lt result ends _ now begun waited =>
    have same : k' = k := by
      rcases Nat.lt_or_eq_of_le (Nat.le_of_lt_succ lt) with lt | same
      · cases ends with
        | found r found => exact absurd quiet (found.not_quiet lt)
        | lost i fault ends lost => exact absurd quiet (lost.not_quiet (by omega))
      · exact same
    subst same
    exact ⟨now, begun, waited⟩

end Standing

/-- **A search for a receipt ends with the first receipt or with the first five failures in a row**, whatever the
answers to its lookups are and however long each of them takes.

After `m` lookups the result is a confirmation exactly if one of them found the first receipt before five lookups had failed
in a row; then it has what the receipt tells. It is a failure exactly if five lookups in a row had failed before any
receipt came; then it tells the last of these failures, and their number. As long as neither has come there is no
result. Lookup `k`, counted from zero, begins behind the `k` lookups before it and as many waits, of which each is to last
as long as configured, and at least 100 milliseconds, and is cut short after thirty years; behind the lookup that ends the
search nothing happens any more. -/
theorem search_exact (name url : String) (poll : Nat) (t : SignedTransaction) (since : Nat) (lookups : Nat → Lookup) :
    let n := Node.named name url poll
    let l := (Polling.start since).after n t lookups
    let wait := max poll 100
    let begins := fun k => since + ((List.range k).map fun j => (lookups j).took).sum + k * Wait.bounded wait
    (∀ m c, (l m).search.result? = some (.ok c) ↔ ∃ k < m, ∃ r, FoundAt lookups k r ∧ r.confirmation = c) ∧
      (∀ m e, (l m).search.result? = some (.error e) ↔
        ∃ i fault, i + 5 ≤ m ∧ GivenUpFrom lookups i fault ∧
          .connection (name ++ ": receipt lookup for " ++ t.hashText ++ " failed 5 times: " ++ fault.message) = e) ∧
      (∀ m, (l m).search.result? = none ↔ Quiet lookups m) ∧
      (∀ k, (l k).search.result? = none →
        (l k).now = begins k ∧ (l k).lookups = (List.range k).map begins ∧ (l k).waits = List.replicate k wait ∧
          ((l (k + 1)).search.result? ≠ none →
            (l (k + 1)).now = begins k + (lookups k).took ∧ (l (k + 1)).lookups = (List.range (k + 1)).map begins ∧
              (l (k + 1)).waits = List.replicate k wait ∧ ∀ m > k, l m = l (k + 1))) ∧
      (wait ≤ Wait.longest → Wait.bounded wait = wait) := by
  intro n l wait begins
  have standing (m : Nat) : Standing n t since lookups m (l m) := .after m
  refine ⟨fun m c => (standing m).result?_eq_ok_iff, fun m e => ?_, fun m => (standing m).result?_eq_none_iff,
    fun k none => ?_, Wait.bounded_of_le⟩
  · have said (fault : RequestFault) : Search.lost n t maxFailures fault =
        .connection (name ++ ": receipt lookup for " ++ t.hashText ++ " failed 5 times: " ++ fault.message) := by
      simp only [Search.lost, String.append_assoc]
      rfl
    refine (standing m).result?_eq_error_iff.trans ?_
    simp only [said]
    rfl
  · have quiet : Quiet lookups k := (standing k).result?_eq_none_iff.1 none
    have begun : (l k).now = begins k ∧ (l k).lookups = (List.range k).map begins ∧
        (l k).waits = List.replicate k wait := by
      cases standing k with
      | going f _ _ now begun waited => exact ⟨now, begun, waited⟩
      | finished k' lt result ends search => rw [search] at none; cases none
    refine ⟨begun.1, begun.2.1, begun.2.2, fun finished => ?_⟩
    obtain ⟨now, looked, waited⟩ := (standing (k + 1)).at_end quiet finished
    obtain ⟨result, finished⟩ := Option.ne_none_iff_exists'.1 finished
    exact ⟨now, looked, waited, fun m lt => Polling.after_of_ended finished lt⟩

/-- A node that is to be asked again after a thousand million seconds is asked after thirty years. -/
theorem search_cut_short :
    let n := Node.named "a" "http://a" 1000000000000
    let t : SignedTransaction := ⟨⟨1, 0, 0, 0, 21000, .create, 0, []⟩, ⟨List.replicate 20 0, rfl⟩, [], []⟩
    let l := (Polling.start 0).after n t (fun _ => ⟨0, .ok none⟩) 2
    l.waits = [max 1000000000000 100, max 1000000000000 100] ∧ l.lookups = [0, 946080000000] ∧
      l.lookups ≠ [0, max 1000000000000 100] := by
  decide

end Polling

end TxLoad.Network
