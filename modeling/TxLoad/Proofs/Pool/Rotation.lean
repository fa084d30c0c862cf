import TxLoad.Pool
import Mathlib.Data.Int.CardIntervalMod

/-!
# A pool through all that happens to it

Endpoints are picked and checked in any order. Picks in turn share one cursor, which survives checks that let the good
endpoints become fewer, none, or more again.

- `Pool.Call` is a pick or a check of all endpoints, `Pool.after` the pool after some calls;
- `Kept` ties the pool to the checks that ended last; every call keeps it (`Kept.step`);
- as long as no check ends, `n` picks in turn go round the good endpoints from the cursor on (`turns_between`), so that
  each of them comes up equally often, give or take one (`countP_residue`);
- **both together, for every history** (`select_after_history`).
-/

namespace TxLoad.Pool

/-! ## Histories -/

/-- What is done to a pool of `total` endpoints: a pick, or a check of all of them that ends. -/
inductive Call (total : Nat) where
  | select (s : Selection) (key draw : Nat)
  | refresh (checks : Vector Checkup total)

namespace Call

variable {total : Nat}

/-- The checks that ended. -/
def checks? : Call total → Option (Vector Checkup total)
  | refresh checks => some checks
  | select _ _ _ => none

/-- A pick in turn. -/
def isTurn : Call total → Bool
  | select .inTurn _ _ => true
  | _ => false

end Call

variable {total : Nat}

/-- The pool after a call. -/
def step (p : Pool) : Call total → Pool
  | .select s key draw => (p.select s key draw).2
  | .refresh checks => p.refresh checks.toList

/-- The pool after some calls. -/
def after (p : Pool) (calls : List (Call total)) : Pool := calls.foldl step p

/-- The checks that ended last. -/
def lastChecks? (calls : List (Call total)) : Option (Vector Checkup total) := (calls.filterMap Call.checks?).getLast?

/-- What the picks in turn give. -/
def turns (p : Pool) : List (Call total) → List (Except Failure Nat)
  | [] => []
  | c :: calls =>
    match c with
    | .select .inTurn key draw => (p.select .inTurn key draw).1 :: (p.step c).turns calls
    | _ => (p.step c).turns calls

/-- An endpoint passed the checks that ended last; before the first checks, all did. -/
def Passed (last : Option (Vector Checkup total)) (i : Nat) : Prop :=
  ∀ checks, last = some checks → ∃ c, checks.toList[i]? = some c ∧ c.result.isOk

theorem after_append (p : Pool) (calls calls' : List (Call total)) :
    p.after (calls ++ calls') = (p.after calls).after calls' :=
  List.foldl_append ..

theorem lastChecks?_concat (calls : List (Call total)) (c : Call total) :
    lastChecks? (calls ++ [c]) = c.checks?.or (lastChecks? calls) := by
  unfold lastChecks?
  rw [List.filterMap_append, List.getLast?_append]
  cases c <;> rfl

/-! ## One pick -/

section Select

variable {p : Pool} (s : Selection) (key draw : Nat)

theorem select_of_empty (empty : p.good = []) :
    p.select s key draw = (.error (.noHealthyEndpoints p.total), p) := by
  unfold select
  simp [empty]

/-- With a good endpoint a pick succeeds; it changes no more than the cursor. -/
theorem select_of_good {e : Nat} (there : p.good[(s.pick key draw p.good.length p.cursor).1]? = some e) :
    p.select s key draw = (.ok e, { p with cursor := (s.pick key draw p.good.length p.cursor).2 }) := by
  unfold select
  simp only [there]

theorem exists_picked (some_good : p.good ≠ []) :
    ∃ e ∈ p.good, p.good[(s.pick key draw p.good.length p.cursor).1]? = some e := by
  have inside := s.pick_lt key draw p.cursor (List.length_pos_of_ne_nil some_good)
  exact ⟨_, List.getElem_mem inside, List.getElem?_eq_getElem inside⟩

/-- A pick changes neither the configured nor the good endpoints. -/
theorem same_endpoints : (p.select s key draw).2.total = p.total ∧ (p.select s key draw).2.good = p.good := by
  rcases eq_or_ne p.good [] with empty | some_good
  · rw [select_of_empty s key draw empty]
    exact ⟨rfl, rfl⟩
  · obtain ⟨e, -, there⟩ := exists_picked s key draw some_good
    rw [select_of_good s key draw there]
    exact ⟨rfl, rfl⟩

/-- **A pick gives a good endpoint, and fails exactly if there is none.** -/
theorem select_spec :
    (p.good ≠ [] → ∃ e ∈ p.good, (p.select s key draw).1 = .ok e) ∧
      ((∃ f, (p.select s key draw).1 = .error f) ↔ p.good = []) ∧
      (p.good = [] → (p.select s key draw).1 = .error (.noHealthyEndpoints p.total)) := by
  rcases eq_or_ne p.good [] with empty | some_good
  · rw [select_of_empty s key draw empty]
    simp [empty]
  · obtain ⟨e, mem, there⟩ := exists_picked s key draw some_good
    rw [select_of_good s key draw there]
    simp [some_good, mem]

end Select

/-- Only a pick in turn moves the cursor. -/
theorem cursor_of_not_turn {p : Pool} {c : Call total} (picks : c.checks? = none) (other : c.isTurn = false) :
    (p.step c).cursor = p.cursor := by
  cases c with
  | refresh checks => cases picks
  | select s key draw =>
    rcases eq_or_ne p.good [] with empty | some_good
    · rw [step, select_of_empty s key draw empty]
    · obtain ⟨e, -, there⟩ := exists_picked s key draw some_good
      rw [step, select_of_good s key draw there]
      cases s with
      | byIndex | random => rfl
      | inTurn => cases other

/-! ## The invariant -/

/-- **What is kept of a pool**: the good endpoints are those that passed the checks that ended last, in configured
order, and the cursor is zero or points at one of them. -/
structure Kept (total : Nat) (last : Option (Vector Checkup total)) (p : Pool) : Prop where
  total_eq : p.total = total
  ordered : p.good.Sublist (List.range total)
  mem_iff : ∀ i, i ∈ p.good ↔ i < total ∧ Passed last i
  cursor : p.cursor = 0 ∨ p.cursor < p.good.length

namespace Kept

variable {last : Option (Vector Checkup total)} {p : Pool}

theorem start (made : ofTotal total = .ok p) : Kept total none p := by
  unfold ofTotal at made
  split at made
  · cases made
  · cases made
    refine ⟨rfl, List.Sublist.refl _, fun i => ?_, .inl rfl⟩
    simp [Passed]

/-- A pick leaves the good endpoints as they are, and the cursor inside. -/
theorem select (h : Kept total last p) (s : Selection) (key draw : Nat) :
    Kept total last (p.select s key draw).2 := by
  rcases eq_or_ne p.good [] with empty | some_good
  · rw [select_of_empty s key draw empty]
    exact h
  · obtain ⟨e, -, there⟩ := exists_picked s key draw some_good
    have pos : 0 < p.good.length := List.length_pos_of_ne_nil some_good
    have inside : p.cursor < p.good.length := by
      rcases h.cursor with zero | inside <;> omega
    rw [select_of_good s key draw there]
    exact ⟨h.total_eq, h.ordered, h.mem_iff, .inr (s.cursor_lt key draw inside)⟩

/-- Checks that end replace the good endpoints; a cursor behind their end goes back to the start. -/
theorem refresh (h : Kept total last p) (checks : Vector Checkup total) :
    Kept total (some checks) (p.refresh checks.toList) where
  total_eq := h.total_eq
  ordered := by
    have sublist : (healthy checks.toList).Sublist (List.range checks.toList.length) := List.filter_sublist
    rwa [Vector.length_toList] at sublist
  mem_iff i := by
    show i ∈ healthy checks.toList ↔ _
    unfold healthy Passed
    rw [List.mem_filter, List.mem_range, Vector.length_toList]
    refine and_congr_right fun inside => ?_
    have there : checks.toList[i]? = some checks[i] := by simp [inside]
    simp only [there, Option.map_some, Option.getD_some, Option.some.injEq, forall_eq', exists_eq_left']
  cursor := by
    show Selection.wrap p.cursor (healthy checks.toList).length = 0 ∨
      Selection.wrap p.cursor (healthy checks.toList).length < (healthy checks.toList).length
    unfold Selection.wrap
    split
    · exact .inl rfl
    · next inside => exact .inr (Nat.lt_of_not_le inside)

/-- **Every call keeps the pool.** -/
theorem step (h : Kept total last p) (c : Call total) : Kept total (c.checks?.or last) (p.step c) := by
  cases c with
  | select s key draw => exact h.select s key draw
  | refresh checks => exact h.refresh checks

theorem after (h : Kept total none p) (calls : List (Call total)) : Kept total (lastChecks? calls) (p.after calls) := by
  induction calls using List.reverseRecOn with
  | nil => exact h
  | append_singleton calls c ih =>
    rw [after_append, lastChecks?_concat]
    exact ih.step c

end Kept

/-! ## Picks in turn -/

/-- The position after a wrapped one, in a circle. -/
theorem wrap_succ {cursor length : Nat} (inside : cursor < length) :
    Selection.wrap (cursor + 1) length = (cursor + 1) % length := by
  unfold Selection.wrap
  split
  · next behind =>
    have last : cursor + 1 = length := by omega
    rw [last, Nat.mod_self]
  · next inside' => exact (Nat.mod_eq_of_lt (Nat.lt_of_not_le inside')).symm

/-- A pick in turn gives the endpoint at the cursor, and the cursor goes on in a circle. -/
theorem select_inTurn {p : Pool} {e : Nat} (key draw : Nat) (there : p.good[p.cursor]? = some e) :
    p.select .inTurn key draw = (.ok e, { p with cursor := (p.cursor + 1) % p.good.length }) := by
  have inside : p.cursor < p.good.length := (List.getElem?_eq_some_iff.1 there).1
  have here : Selection.wrap p.cursor p.good.length = p.cursor := if_neg (Nat.not_le.2 inside)
  have picked : Selection.inTurn.pick key draw p.good.length p.cursor =
      (p.cursor, (p.cursor + 1) % p.good.length) := by
    unfold Selection.pick
    dsimp only
    rw [here, wrap_succ inside]
  unfold select
  simp only [picked, there]

/-- **Between two checks the picks in turn go round the good endpoints**, from the cursor on, whatever else is picked
meanwhile. -/
theorem turns_between {p : Pool} {calls : List (Call total)} (between : ∀ c ∈ calls, c.checks? = none)
    (inside : p.cursor < p.good.length) :
    (p.turns calls).map Except.toOption = (List.range (calls.countP Call.isTurn)).map fun j =>
      p.good[(p.cursor + j) % p.good.length]? := by
  induction calls generalizing p with
  | nil => rfl
  | cons c calls ih =>
    have rest : ∀ c ∈ calls, c.checks? = none := fun c mem => between c (List.mem_cons_of_mem _ mem)
    cases c with
    | refresh checks => cases between _ List.mem_cons_self
    | select s key draw =>
      have good : (p.step (.select s key draw : Call total)).good = p.good := (same_endpoints s key draw).2
      cases turn : (Call.select s key draw : Call total).isTurn with
      | false =>
        have cursor := cursor_of_not_turn (p := p) rfl turn
        have skipped : p.turns (.select s key draw :: calls) = (p.step (.select s key draw : Call total)).turns calls := by
          cases s with
          | byIndex | random => rfl
          | inTurn => cases turn
        rw [skipped, ih rest (by rw [good, cursor]; exact inside), good, cursor,
          List.countP_cons_of_neg (by simp [turn])]
      | true =>
        cases s with
        | byIndex | random => cases turn
        | inTurn =>
          have there : p.good[p.cursor]? = some p.good[p.cursor] := List.getElem?_eq_getElem inside
          have first : (p.cursor + 0) % p.good.length = p.cursor := Nat.mod_eq_of_lt inside
          have picked := select_inTurn key draw there
          have next : (p.step (.select .inTurn key draw : Call total)) =
              { p with cursor := (p.cursor + 1) % p.good.length } := congrArg Prod.snd picked
          have onward (j : Nat) : ((p.cursor + 1) % p.good.length + j) % p.good.length =
              (p.cursor + (j + 1)) % p.good.length := by
            rw [Nat.mod_add_mod, Nat.add_right_comm, Nat.add_assoc]
          rw [turns, picked, next, List.map_cons, ih rest (Nat.mod_lt _ (Nat.zero_lt_of_lt inside)),
            List.countP_cons_of_pos turn, List.range_succ_eq_map, List.map_cons, first, there, List.map_map]
          simp only [Except.toOption, Function.comp_def, onward]

theorem countP_range (q : Nat → Prop) [DecidablePred q] (n : Nat) :
    (List.range n).countP (fun j => q j) = Nat.count q n := by
  induction n with
  | zero => rfl
  | succ n ih => rw [List.range_succ, List.countP_append, ih, Nat.count_succ, List.countP_singleton]; simp

/-- How often a residue comes up among `n` numbers in a row: as often as `n` goes round, and perhaps once more. -/
theorem countP_residue {length : Nat} (n cursor : Nat) {i : Nat} (inside : i < length) :
    (List.range n).countP (fun j => (cursor + j) % length = i) = n / length ∨
      (List.range n).countP (fun j => (cursor + j) % length = i) = (n + length - 1) / length := by
  have pos : 0 < length := Nat.zero_lt_of_lt inside
  -- how far the residue is from the cursor
  let first := (i + (length - cursor % length)) % length
  have residue (j : Nat) : (cursor + j) % length = i ↔ j ≡ first [MOD length] := by
    have short : cursor % length < length := Nat.mod_lt _ pos
    have back : (cursor + first) % length = i := by
      have whole : cursor % length + (i + (length - cursor % length)) = i + length := by omega
      rw [Nat.add_mod, Nat.mod_mod, ← Nat.add_mod, ← Nat.mod_add_mod, whole, Nat.add_mod_right,
        Nat.mod_eq_of_lt inside]
    constructor
    · intro same
      exact Nat.ModEq.add_left_cancel' cursor (same.trans back.symm)
    · intro same
      have moved : (cursor + j) % length = (cursor + first) % length := Nat.ModEq.add_left cursor same
      exact moved.trans back
  have counted : (List.range n).countP (fun j => (cursor + j) % length = i) =
      n / length + if first % length < n % length then 1 else 0 := by
    rw [← Nat.count_modEq_card n pos first, ← countP_range]
    simp only [residue]
  rw [counted]
  split
  · next more =>
    have whole := Nat.div_add_mod n length
    have ceil : (n + length - 1) / length = n / length + 1 := by
      rw [Nat.div_eq_iff pos]
      have expand : (n / length + 1) * length = length * (n / length) + length := by ring
      have short : n % length < length := Nat.mod_lt _ pos
      omega
    exact .inr ceil.symm
  · exact .inl (Nat.add_zero _)

/-- Among different things in a row, what stands at a position stands nowhere else. -/
theorem getElem?_eq_iff {xs : List Nat} (distinct : xs.Nodup) {i : Nat} {e : Nat} (there : xs[i]? = some e) (j : Nat) :
    xs[j]? = some e ↔ j = i := by
  constructor
  · intro also
    obtain ⟨inside, here⟩ := List.getElem?_eq_some_iff.1 there
    obtain ⟨inside', here'⟩ := List.getElem?_eq_some_iff.1 also
    exact (distinct.getElem_inj_iff).1 (here'.trans here.symm)
  · rintro rfl
    exact there

/-- **Picks in turn are even**: between two checks each good endpoint gets its share of them, rounded down or up. -/
theorem countP_turns {p : Pool} {calls : List (Call total)} (between : ∀ c ∈ calls, c.checks? = none)
    (inside : p.cursor < p.good.length) (distinct : p.good.Nodup) {e : Nat} (good : e ∈ p.good) :
    (p.turns calls).countP (·.toOption = some e) = calls.countP Call.isTurn / p.good.length ∨
      (p.turns calls).countP (·.toOption = some e) =
        (calls.countP Call.isTurn + p.good.length - 1) / p.good.length := by
  obtain ⟨i, there⟩ := List.getElem?_of_mem good
  have here : i < p.good.length := (List.getElem?_eq_some_iff.1 there).1
  have counted : (p.turns calls).countP (·.toOption = some e) =
      (List.range (calls.countP Call.isTurn)).countP fun j => (p.cursor + j) % p.good.length = i := by
    have asked : (p.turns calls).countP (·.toOption = some e) =
        ((p.turns calls).map Except.toOption).countP (· = some e) := by
      rw [List.countP_map]
      rfl
    rw [asked, turns_between between inside, List.countP_map]
    refine List.countP_congr fun j _ => ?_
    simp only [Function.comp_apply, decide_eq_true_eq]
    exact getElem?_eq_iff distinct there _
  rw [counted]
  exact countP_residue _ p.cursor here

/-! ## The result -/

/-- **What holds of a pool after every history of picks and checks**, whatever the checks find.

The good endpoints are those of the configured ones that passed the checks that ended last, in configured order; the
cursor is zero or points at one of them. A pick gives one of them, and fails exactly if there is none; a pick by index
gives the one at the key modulo their number. Until the next checks end, the picks in turn go round them from the
cursor on, whatever is picked meanwhile, and so each gets its share, rounded down or up. -/
theorem select_after_history {p : Pool} (made : ofTotal total = .ok p) (calls : List (Call total)) :
    let q := p.after calls
    (q.good.Sublist (List.range total) ∧ ∀ i, i ∈ q.good ↔ i < total ∧ Passed (lastChecks? calls) i) ∧
      (q.cursor = 0 ∨ q.cursor < q.good.length) ∧
      (∀ s key draw,
        (q.good ≠ [] → ∃ e ∈ q.good, (q.select s key draw).1 = .ok e) ∧
          ((∃ f, (q.select s key draw).1 = .error f) ↔ q.good = []) ∧
          (q.good = [] → (q.select s key draw).1 = .error (.noHealthyEndpoints total))) ∧
      (∀ key draw, q.good ≠ [] → (q.select .byIndex key draw).1.toOption = q.good[key % q.good.length]?) ∧
      ∀ between : List (Call total), (∀ c ∈ between, c.checks? = none) → q.good ≠ [] →
        let n := between.countP Call.isTurn
        (q.turns between).map Except.toOption =
            ((List.range n).map fun j => q.good[(q.cursor + j) % q.good.length]?) ∧
          ∀ e ∈ q.good,
            (q.turns between).countP (·.toOption = some e) = n / q.good.length ∨
              (q.turns between).countP (·.toOption = some e) = (n + q.good.length - 1) / q.good.length := by
  intro q
  have kept : Kept total (lastChecks? calls) q := (Kept.start made).after calls
  refine ⟨⟨kept.ordered, kept.mem_iff⟩, kept.cursor, fun s key draw => ?_, fun key draw some_good => ?_,
    fun between calm some_good => ?_⟩
  · rw [← kept.total_eq]
    exact select_spec s key draw
  · obtain ⟨e, -, there⟩ := exists_picked .byIndex key draw some_good
    rw [select_of_good .byIndex key draw there]
    exact there.symm
  · have inside : q.cursor < q.good.length := by
      have pos := List.length_pos_of_ne_nil some_good
      rcases kept.cursor with zero | inside <;> omega
    exact ⟨turns_between calm inside, fun e good =>
      countP_turns calm inside (kept.ordered.nodup List.nodup_range) good⟩

/-- Three endpoints; after a pick in turn the second fails a check, and two more picks in turn go round the other two. -/
theorem select_after_history_three :
    let passed : Checkup := ⟨0, .ok ()⟩
    let calls : List (Call 3) :=
      [.select .inTurn 0 0, .refresh #v[passed, ⟨0, .error .noAccounts⟩, passed]]
    let between : List (Call 3) := [.select .inTurn 0 0, .select .byIndex 5 0, .select .inTurn 0 0]
    let p : Pool := ⟨3, [0, 1, 2], 0⟩
    ofTotal 3 = .ok p ∧ (∀ c ∈ between, c.checks? = none) ∧ (p.after calls).good = [0, 2] ∧
      ((p.after calls).turns between).map Except.toOption = [some 2, some 0] := by
  intro passed calls between p
  have made : ofTotal 3 = .ok p := rfl
  have calm : ∀ c ∈ between, c.checks? = none := by simp [between, Call.checks?]
  have good : (p.after calls).good = [0, 2] := rfl
  have some_good : (p.after calls).good ≠ [] := by simp [good]
  have round := ((select_after_history made calls).2.2.2.2 between calm some_good).1
  exact ⟨made, calm, good, round.trans (by decide)⟩

end TxLoad.Pool
