import TxLoad.Amount
import Mathlib.Algebra.Order.Floor.Semifield
import Mathlib.Data.List.DropRight
import Mathlib.Data.Nat.Digits.Defs
import Mathlib.Data.Rat.Floor
import Mathlib.Tactic.FieldSimp
import Mathlib.Tactic.Ring

/-!
# Decimal numbers

A `Numeral` is a row of digits, with a point and more digits or without. Its `value` is a rational number, and its
`worth` is that value moved by some decimal places and rounded down.

- `worth_eq`: the worth is a quotient of two natural numbers, the digits without the point and a power of ten;
- `numeral?_digits`: a row of digits is read as the number that it denotes;
- **a numeral is read as its worth** (`scaled_chars`), whether its fraction is padded or cut off.
-/

namespace TxLoad.Wei

/-- A row of digits as it is written. -/
def digits (ds : List (Fin 10)) : List Char := ds.map fun d => Nat.digitChar d.val

/-- The number that a row of digits denotes. -/
def natural (ds : List (Fin 10)) : Nat := Nat.ofDigits 10 (ds.map Fin.val).reverse

/-- Digits, and perhaps a point with more digits behind it. -/
structure Numeral where
  whole : List (Fin 10)
  fraction : Option (List (Fin 10))

namespace Numeral

/-- The digits behind the point. -/
def decimals (n : Numeral) : List (Fin 10) := n.fraction.getD []

/-- How the numeral is written. -/
def chars (n : Numeral) : List Char :=
  match n.fraction with
  | none => digits n.whole
  | some ds => digits n.whole ++ '.' :: digits ds

/-- The number that the numeral denotes. -/
def value (n : Numeral) : ℚ := natural n.whole + natural n.decimals / 10 ^ n.decimals.length

/-- The value in units of which `10 ^ places` make one, rounded down. -/
def worth (n : Numeral) (places : Nat) : Nat := ⌊n.value * 10 ^ places⌋₊

end Numeral

/-! ## Rows of digits -/

theorem natural_append (ds es : List (Fin 10)) : natural (ds ++ es) = natural ds * 10 ^ es.length + natural es := by
  rw [natural, List.map_append, List.reverse_append, Nat.ofDigits_append, List.length_reverse, List.length_map]
  simp only [natural]
  ring

/-- A row of digits denotes less than the power of ten of its length. -/
theorem natural_lt (ds : List (Fin 10)) : natural ds < 10 ^ ds.length := by
  have small : ∀ d ∈ (ds.map Fin.val).reverse, d < 10 := by
    intro d mem
    obtain ⟨e, -, rfl⟩ := List.mem_map.1 (List.mem_reverse.1 mem)
    exact e.isLt
  have bound := Nat.ofDigits_lt_base_pow_length (by decide) small
  rwa [List.length_reverse, List.length_map] at bound

theorem natural_take (ds es : List (Fin 10)) : natural (ds ++ es) / 10 ^ es.length = natural ds := by
  rw [natural_append, Nat.add_comm, Nat.add_mul_div_right _ _ (by positivity), Nat.div_eq_of_lt (natural_lt es),
    Nat.zero_add]

/-! ## The worth of a numeral -/

namespace Numeral

theorem value_eq (n : Numeral) : n.value = natural (n.whole ++ n.decimals) / (10 ^ n.decimals.length : Nat) := by
  rw [value, natural_append]
  push_cast
  field_simp

/-- The worth of a numeral as a quotient of natural numbers. -/
theorem worth_eq (n : Numeral) (places : Nat) :
    n.worth places = natural (n.whole ++ n.decimals) * 10 ^ places / 10 ^ n.decimals.length := by
  have quotient : n.value * 10 ^ places =
      ((natural (n.whole ++ n.decimals) * 10 ^ places : Nat) : ℚ) / (10 ^ n.decimals.length : Nat) := by
    rw [value_eq]
    push_cast
    ring
  rw [worth, quotient, Nat.floor_div_eq_div]

theorem worth_of_le {n : Numeral} {places : Nat} (h : n.decimals.length ≤ places) :
    n.worth places = natural (n.whole ++ n.decimals) * 10 ^ (places - n.decimals.length) := by
  have split : 10 ^ places = 10 ^ (places - n.decimals.length) * 10 ^ n.decimals.length := by
    rw [← Nat.pow_add, Nat.sub_add_cancel h]
  rw [worth_eq, split, ← Nat.mul_assoc, Nat.mul_div_cancel _ (by positivity)]

theorem worth_of_lt {n : Numeral} {places : Nat} (h : places < n.decimals.length) :
    n.worth places = natural (n.whole ++ n.decimals.take places) := by
  have cut : n.whole ++ n.decimals = n.whole ++ n.decimals.take places ++ n.decimals.drop places := by
    rw [List.append_assoc, List.take_append_drop]
  have split : 10 ^ n.decimals.length = 10 ^ (n.decimals.drop places).length * 10 ^ places := by
    rw [← Nat.pow_add, List.length_drop, Nat.sub_add_cancel h.le]
  rw [worth_eq, split, Nat.mul_div_mul_right _ _ (by positivity), cut, natural_take]

end Numeral

/-! ## Reading digits -/

theorem digit?_digitChar : ∀ d : Fin 10, digit? (Nat.digitChar d) = some d.val := by decide

/-- A row of digits is read as the number that it denotes. -/
theorem numeral?_digits (ds : List (Fin 10)) : numeral? (digits ds) = some (natural ds) := by
  induction ds using List.reverseRecOn with
  | nil => rfl
  | append_singleton ds d ih =>
    have plain : ∀ d : Fin 10, Nat.digitChar d ≠ '_' := by decide
    rw [numeral?, digits, List.map_append, List.foldlM_append]
    rw [numeral?, digits] at ih
    rw [ih, natural_append]
    simp [plain d, digit?_digitChar d, natural, Nat.mul_comm]

/-! ## Places in bytes -/

/-- A character of one byte. -/
abbrev IsNarrow (c : Char) : Prop := c.utf8Size = 1

/-- Characters of one byte each take as many bytes as there are. -/
theorem utf8Length_of_narrow {cs : List Char} (narrow : ∀ c ∈ cs, IsNarrow c) : utf8Length cs = cs.length := by
  have from_any : ∀ n, cs.foldl (fun n c => n + c.utf8Size) n = n + cs.length := by
    induction cs with
    | nil => exact fun n => rfl
    | cons c cs ih =>
      obtain ⟨one, narrow⟩ := List.forall_mem_cons.1 narrow
      intro n
      rw [List.foldl_cons, ih narrow, one, List.length_cons]
      omega
  rw [utf8Length, from_any, Nat.zero_add]

/-- Characters of one byte each are taken one by one. -/
theorem takeUtf8_of_narrow {cs : List Char} (narrow : ∀ c ∈ cs, IsNarrow c) {n : Nat} (h : n ≤ cs.length) :
    takeUtf8 n cs = some (cs.take n) := by
  induction cs generalizing n with
  | nil =>
    cases Nat.le_zero.1 h
    rfl
  | cons c cs ih =>
    obtain ⟨one, narrow⟩ := List.forall_mem_cons.1 narrow
    cases n with
    | zero => rfl
    | succ n =>
      rw [takeUtf8, one, if_pos (by omega), Nat.add_sub_cancel, ih narrow (Nat.le_of_succ_le_succ h)]
      rfl

theorem narrow_digits {ds : List (Fin 10)} : ∀ c ∈ digits ds, IsNarrow c := by
  have narrow : ∀ d : Fin 10, IsNarrow (Nat.digitChar d) := by decide
  intro c mem
  obtain ⟨d, -, rfl⟩ := List.mem_map.1 mem
  exact narrow d

/-! ## Reading numerals -/

theorem digits_append (ds es : List (Fin 10)) : digits (ds ++ es) = digits ds ++ digits es := List.map_append

theorem length_digits (ds : List (Fin 10)) : (digits ds).length = ds.length := List.length_map ..

theorem point_notMem_digits (ds : List (Fin 10)) : ∀ c ∈ digits ds, decide (c ≠ '.') = true := by
  have plain : ∀ d : Fin 10, decide (Nat.digitChar d ≠ '.') = true := by decide
  intro c mem
  obtain ⟨d, -, rfl⟩ := List.mem_map.1 mem
  exact plain d

/-- Without its point a numeral is its digits, and the places are those behind it. -/
theorem removePoint_chars (n : Numeral) :
    removePoint n.chars = (digits (n.whole ++ n.decimals), n.decimals.length) := by
  obtain ⟨whole, fraction⟩ := n
  rw [removePoint, List.span_eq_takeWhile_dropWhile, digits_append]
  cases fraction with
  | none =>
    rw [Numeral.chars, List.takeWhile_eq_self_iff.2 (point_notMem_digits whole),
      List.dropWhile_eq_nil_iff.2 (point_notMem_digits whole)]
    exact Prod.ext (List.append_nil _).symm rfl
  | some ds =>
    rw [Numeral.chars, List.takeWhile_append_of_pos (point_notMem_digits whole),
      List.dropWhile_append_of_pos (point_notMem_digits whole)]
    simp [Numeral.decimals, utf8Length_of_narrow narrow_digits, length_digits]

/-- **A numeral is read as its worth.** -/
theorem scaled_chars (n : Numeral) (places : Nat) : scaled places n.chars = .ok (n.worth places) := by
  rw [scaled, removePoint_chars]
  dsimp only
  split
  · next long =>
    -- what is left once the surplus is cut off are the digits in front of it
    have front : utf8Length (digits (n.whole ++ n.decimals)) - (n.decimals.length - places) =
        (n.whole ++ n.decimals.take places).length := by
      rw [utf8Length_of_narrow narrow_digits, length_digits, List.length_append, List.length_append,
        List.length_take]
      omega
    have cut : (digits (n.whole ++ n.decimals)).take (n.whole ++ n.decimals.take places).length =
        digits (n.whole ++ n.decimals.take places) := by
      rw [digits, ← List.map_take]
      congr 1
      rw [List.length_append, List.take_length_add_append, List.length_take, Nat.min_eq_left long.le]
    rw [front, takeUtf8_of_narrow narrow_digits (by simp [length_digits]), cut]
    dsimp only
    rw [numeral?_digits, Numeral.worth_of_lt long]
    rfl
  · next short =>
    rw [numeral?_digits, Numeral.worth_of_le (Nat.le_of_not_lt short)]
    rfl

end TxLoad.Wei
