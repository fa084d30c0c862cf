import Mathlib.Algebra.GroupWithZero.Nat

/-!
# Lists that grow or change

- `split_concat`: what stands before an element of a list that has grown by at most one;
- `eq_of_nodup_filterMap`: elements with the same value, among values that differ;
- `sum_map_modify`: what one changed element does to a sum;
- `countP_of_key`: a key counts once among keys that differ;
- `exists_first`, `exists_last`: the first and the last element with a property;
- `pairwise_of_split`: a list is ordered if any two of its elements are.
-/

namespace TxLoad

variable {α : Type}

/-- What comes before an element of a longer list comes before it in the shorter one, unless the element is the last. -/
theorem split_concat {xs : List α} {d : Option α} {before later : List α} {x : α}
    (h : xs ++ d.toList = before ++ x :: later) : (∃ later', xs = before ++ x :: later') ∨ d = some x ∧ xs = before := by
  cases d with
  | none => exact .inl ⟨later, by simpa using h⟩
  | some y =>
    rcases List.eq_nil_or_concat later with rfl | ⟨later', z, rfl⟩
    · obtain ⟨same, last⟩ := List.append_inj' h rfl
      cases last
      exact .inr ⟨rfl, same⟩
    · rw [List.concat_eq_append, ← List.cons_append, ← List.append_assoc] at h
      obtain ⟨same, -⟩ := List.append_inj' h rfl
      exact .inl ⟨later', same⟩

/-- Two elements of a list that have the same value, among values that differ, are the same. -/
theorem eq_of_nodup_filterMap {β : Type} {f : α → Option β} {xs : List α} (distinct : (xs.filterMap f).Nodup) {a b : α}
    {c : β} (ha : a ∈ xs) (hb : b ∈ xs) (fa : f a = some c) (fb : f b = some c) : a = b := by
  rw [List.Nodup, List.pairwise_filterMap] at distinct
  induction xs with
  | nil => cases ha
  | cons x xs ih =>
    obtain ⟨first, rest⟩ := List.pairwise_cons.1 distinct
    rcases List.mem_cons.1 ha with rfl | later_a
    · rcases List.mem_cons.1 hb with rfl | later_b
      · rfl
      · exact absurd rfl (first b later_b c fa c fb)
    · rcases List.mem_cons.1 hb with rfl | later_b
      · exact absurd rfl (first a later_a c fb c fa)
      · exact ih rest later_a later_b

/-- A sum changes by as much as one of its terms. -/
theorem sum_map_modify (g : α → Nat) (h : α → α) {xs : List α} {k : Nat} {a : α} (here : xs[k]? = some a) :
    ((xs.modify k h).map g).sum + g a = (xs.map g).sum + g (h a) := by
  induction xs generalizing k with
  | nil => cases here
  | cons x xs ih =>
    cases k with
    | zero =>
      cases here
      rw [List.modify_zero_cons, List.map_cons, List.map_cons, List.sum_cons, List.sum_cons]
      omega
    | succ k =>
      have rest := ih (k := k) here
      rw [List.modify_succ_cons, List.map_cons, List.map_cons, List.sum_cons, List.sum_cons]
      omega

/-- Of entries with different keys one at most has a given key. -/
theorem countP_of_key {β : Type} {ps : List (α × β)} [DecidableEq α] (distinct : (ps.map (·.1)).Nodup) {k : α} {b : β}
    (mem : (k, b) ∈ ps) (q : β → Bool) : ps.countP (fun p => q p.2 && p.1 = k) = if q b then 1 else 0 := by
  induction ps with
  | nil => cases mem
  | cons p ps ih =>
    obtain ⟨fresh, distinct⟩ := List.nodup_cons.1 distinct
    rw [List.countP_cons]
    rcases List.mem_cons.1 mem with rfl | mem
    · have none : ps.countP (fun p => q p.2 && p.1 = k) = 0 := by
        refine List.countP_eq_zero.2 fun p inside counted => fresh ?_
        obtain ⟨-, same⟩ : q p.2 ∧ p.1 = k := by simpa using counted
        exact List.mem_map.2 ⟨p, inside, same⟩
      rw [none]
      simp
    · have other : p.1 ≠ k := by
        rintro rfl
        exact fresh (List.mem_map.2 ⟨_, mem, rfl⟩)
      rw [ih distinct mem]
      simp [other]

/-- What is taken from the front depends on the elements of the list only. -/
theorem takeWhile_congr {p q : α → Bool} {xs : List α} (same : ∀ x ∈ xs, p x = q x) :
    xs.takeWhile p = xs.takeWhile q := by
  induction xs with
  | nil => rfl
  | cons x xs ih =>
    rw [List.takeWhile_cons, List.takeWhile_cons, same x List.mem_cons_self,
      ih fun y mem => same y (List.mem_cons_of_mem _ mem)]

theorem exists_first {p : α → Bool} {xs : List α} {x : α} (mem : x ∈ xs) (holds : p x) :
    ∃ before y later, xs = before ++ y :: later ∧ p y ∧ ∀ z ∈ before, p z = false := by
  obtain ⟨y, found⟩ := Option.isSome_iff_exists.1 (List.find?_isSome.2 ⟨x, mem, holds⟩)
  obtain ⟨holds, before, later, split, none⟩ := List.find?_eq_some_iff_append.1 found
  exact ⟨before, y, later, split, holds, fun z mem => by simpa using none z mem⟩

/-- A list that holds something with a property has a last such element. -/
theorem exists_last {p : α → Bool} {xs : List α} {x : α} (mem : x ∈ xs) (holds : p x) :
    ∃ before y later, xs = before ++ y :: later ∧ p y ∧ ∀ z ∈ later, p z = false := by
  obtain ⟨later, y, before, split, holds, none⟩ := exists_first (List.mem_reverse.2 mem) holds
  refine ⟨before.reverse, y, later.reverse, ?_, holds, fun z mem => none z (List.mem_reverse.1 mem)⟩
  rw [← List.reverse_reverse xs, split, List.reverse_append, List.reverse_cons, List.append_assoc]
  rfl

/-- A list is ordered if any two of its elements are, the earlier one before the later one. -/
theorem pairwise_of_split {r : α → α → Prop} {xs : List α}
    (h : ∀ before x mid y later, xs = before ++ x :: mid ++ y :: later → r x y) : xs.Pairwise r := by
  induction xs with
  | nil => exact .nil
  | cons x xs ih =>
    refine List.pairwise_cons.2 ⟨fun y mem => ?_, ih fun before a mid b later split => ?_⟩
    · obtain ⟨mid, later, split⟩ := List.append_of_mem mem
      exact h [] x mid y later (by rw [split]; rfl)
    · exact h (x :: before) a mid b later (by rw [split]; rfl)

end TxLoad
