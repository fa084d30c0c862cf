import TxLoad.Proofs.Amount.Reading

/-!
# Amounts as they are written

An amount in gwei is written as the numeral `inGwei w`: the digits of the whole gwei, and behind the point the nine
digits of the rest without their final zeros.

- `toList_toString`: a natural number is written as the row of its digits (`decimal`);
- `padded_eq`: the digits in front of which zeros are written (`lastDigits`);
- `Numeral.IsCanonical` says that nothing of a numeral could be left out;
- **what is written in gwei is read back, has one form, and stands for one amount only** (`gwei_lossless`).
-/

namespace TxLoad.Wei

open Text

/-! ## Digits of a number -/

/-- The digits of a number, without zeros in front. -/
def decimal (n : Nat) : List (Fin 10) :=
  if small : n < 10 then [⟨n, small⟩] else decimal (n / 10) ++ [⟨n % 10, Nat.mod_lt n (by decide)⟩]

/-- The last `width` digits of a number, zeros in front included. -/
def lastDigits : Nat → Nat → List (Fin 10)
  | 0, _ => []
  | width + 1, n => lastDigits width (n / 10) ++ [⟨n % 10, Nat.mod_lt n (by decide)⟩]

theorem toList_toString (n : Nat) : (toString n).toList = digits (decimal n) := by
  rw [Nat.toString_eq_ofList_toDigits, String.toList_ofList]
  induction n using decimal.induct with
  | case1 n small => rw [Nat.toDigits_of_lt_base small, decimal, dif_pos small]; rfl
  | case2 n large ih =>
    rw [Nat.toDigits_of_base_le (by decide) (Nat.le_of_not_lt large), ih, decimal.eq_1 n, dif_neg large, digits_append]
    rfl

theorem natural_decimal (n : Nat) : natural (decimal n) = n := by
  induction n using decimal.induct with
  | case1 n small => rw [decimal, dif_pos small]; simp [natural]
  | case2 n large ih =>
    rw [decimal, dif_neg large, natural_append, ih]
    simp only [natural, List.map_singleton, List.reverse_singleton, Nat.ofDigits_singleton, List.length_singleton]
    omega

theorem decimal_ne_nil (n : Nat) : decimal n ≠ [] := by
  rw [decimal]
  split <;> simp

theorem head?_decimal {n : Nat} (zero : (decimal n).head? = some 0) : n = 0 := by
  induction n using decimal.induct with
  | case1 n small => simpa [decimal, small, Fin.ext_iff] using zero
  | case2 n large ih =>
    rw [decimal, dif_neg large, List.head?_append_of_ne_nil _ (decimal_ne_nil _)] at zero
    have := ih zero
    omega

theorem padded_eq (width n : Nat) : padded width n = digits (lastDigits width n) := by
  induction width generalizing n with
  | zero => rfl
  | succ width ih => rw [padded, ih, lastDigits, digits_append]; rfl

theorem length_lastDigits (width n : Nat) : (lastDigits width n).length = width := by
  induction width generalizing n with
  | zero => rfl
  | succ width ih => rw [lastDigits, List.length_append, ih]; rfl

/-- The last digits denote what is left of the number. -/
theorem natural_lastDigits (width n : Nat) : natural (lastDigits width n) = n % 10 ^ width := by
  induction width generalizing n with
  | zero => rw [pow_zero, Nat.mod_one]; rfl
  | succ width ih =>
    rw [lastDigits, natural_append, ih, Nat.pow_succ, Nat.mul_comm (10 ^ width), Nat.mod_mul]
    simp [natural]
    ring

/-! ## Final zeros -/

/-- Digits without the final zeros. -/
def significant (ds : List (Fin 10)) : List (Fin 10) := ds.rdropWhile (· = 0)

theorem digitChar_eq_zero_iff : ∀ d : Fin 10, decide (Nat.digitChar d.val = '0') = decide (d = 0) := by decide

/-- The final zeros of what is written are those of the digits. -/
theorem dropZeros_digits (ds : List (Fin 10)) : dropZeros (digits ds) = digits (significant ds) := by
  rw [dropZeros, dropWhileEnd_eq_rdropWhile]
  induction ds using List.reverseRecOn with
  | nil => rfl
  | append_singleton ds d ih =>
    have last : digits (ds ++ [d]) = digits ds ++ [Nat.digitChar d] := digits_append ds [d]
    rw [last, List.rdropWhile_concat, significant, List.rdropWhile_concat, digitChar_eq_zero_iff]
    split
    · exact ih
    · exact last.symm

/-- Only zeros are left out. -/
theorem exists_zeros (ds : List (Fin 10)) : ∃ zeros, significant ds ++ List.replicate zeros 0 = ds := by
  induction ds using List.reverseRecOn with
  | nil => exact ⟨0, rfl⟩
  | append_singleton ds d ih =>
    rw [significant, List.rdropWhile_concat]
    split
    · next zero =>
      obtain ⟨zeros, whole⟩ := ih
      refine ⟨zeros + 1, ?_⟩
      rw [List.replicate_succ', ← List.append_assoc, of_decide_eq_true zero]
      exact congrArg (· ++ [0]) whole
    · exact ⟨0, List.append_nil _⟩

theorem getLast?_significant (ds : List (Fin 10)) : (significant ds).getLast? ≠ some 0 := by
  intro zero
  rw [significant, ← dropWhileEnd_eq_rdropWhile] at zero
  have other := getLast?_dropWhileEnd zero
  cases other

/-- Zeros behind a row of digits move it by as many places. -/
theorem natural_zeros (ds : List (Fin 10)) (zeros : Nat) :
    natural (ds ++ List.replicate zeros 0) = natural ds * 10 ^ zeros := by
  induction zeros with
  | zero => simp
  | succ zeros ih =>
    rw [List.replicate_succ', ← List.append_assoc, natural_append, ih, Nat.pow_succ]
    simp [natural]
    ring

/-- Digits that do not end in a zero do not denote zero. -/
theorem natural_ne_zero {ds : List (Fin 10)} (filled : ds ≠ []) (tail : ds.getLast? ≠ some 0) : natural ds ≠ 0 := by
  obtain ⟨front, d, rfl⟩ := (List.eq_nil_or_concat' ds).resolve_left filled
  have last : d ≠ 0 := fun zero => tail (by simp [zero])
  have value : natural [d] = d.val := Nat.ofDigits_singleton
  rw [natural_append, value]
  exact fun zero => last (Fin.ext (Nat.eq_zero_of_add_eq_zero_left zero))

/-! ## The numeral of an amount -/

/-- A numeral of which nothing could be left out: no zeros in front of other digits, no point without digits behind it,
and no final zeros behind the point, where at most `places` digits stand. -/
structure Numeral.IsCanonical (n : Numeral) (places : Nat) : Prop where
  filled : n.whole ≠ []
  lead : n.whole.head? = some 0 → n.whole = [0]
  point : n.fraction ≠ some []
  fine : n.decimals.length ≤ places
  tail : n.decimals.getLast? ≠ some 0

theorem Numeral.chars_ne_nil {n : Numeral} (filled : n.whole ≠ []) : n.chars ≠ [] := by
  unfold chars
  split <;> simp [digits, filled]

/-- The digits behind the point of an amount in gwei. -/
def gweiFraction (w : Nat) : List (Fin 10) := significant (lastDigits 9 (w % perGwei))

/-- An amount in gwei, with as many decimals as it needs. -/
def inGwei (w : Nat) : Numeral where
  whole := decimal (w / perGwei)
  fraction := if gweiFraction w = [] then none else some (gweiFraction w)

theorem decimals_inGwei (w : Nat) : (inGwei w).decimals = gweiFraction w := by
  unfold inGwei Numeral.decimals
  split
  · next empty => exact empty.symm
  · rfl

/-- **An amount is written in gwei as its numeral.** -/
theorem toList_gwei (w : Nat) : (gwei w).toList = (inGwei w).chars := by
  have fraction : dropZeros (padded 9 (w % perGwei)) = digits (gweiFraction w) := by
    rw [padded_eq, dropZeros_digits, gweiFraction]
  unfold gwei
  rw [fraction]
  unfold inGwei Numeral.chars
  cases gweiFraction w with
  | nil => exact toList_toString _
  | cons d ds =>
    simp only [digits, List.map_cons, reduceCtorEq, if_false, String.toList_append, String.toList_ofList,
      toList_toString]
    simp

/-- Behind the point stand the digits of the rest, but for zeros. -/
theorem exists_gwei_zeros (w : Nat) : ∃ zeros, (gweiFraction w).length + zeros = 9 ∧
    natural (gweiFraction w) * 10 ^ zeros = w % perGwei := by
  obtain ⟨zeros, whole⟩ := exists_zeros (lastDigits 9 (w % perGwei))
  refine ⟨zeros, ?_, ?_⟩
  · have length := congrArg List.length whole
    rwa [List.length_append, List.length_replicate, length_lastDigits] at length
  · rw [← natural_zeros, gweiFraction, whole, natural_lastDigits]
    exact Nat.mod_mod w perGwei

/-- The numeral of an amount is worth the amount. -/
theorem worth_inGwei (w : Nat) : (inGwei w).worth 9 = w := by
  obtain ⟨zeros, length, rest⟩ := exists_gwei_zeros w
  have short : (inGwei w).decimals.length ≤ 9 := by rw [decimals_inGwei]; omega
  have places : 9 - (inGwei w).decimals.length = zeros := by rw [decimals_inGwei]; omega
  rw [Numeral.worth_of_le short, places, decimals_inGwei, natural_append, Nat.add_mul, Nat.mul_assoc, ← Nat.pow_add,
    length, rest]
  show natural (decimal (w / perGwei)) * 10 ^ 9 + w % perGwei = w
  rw [natural_decimal]
  exact Nat.div_add_mod' w perGwei

/-- Nothing of the numeral of an amount could be left out. -/
theorem isCanonical_inGwei (w : Nat) : (inGwei w).IsCanonical 9 where
  filled := decimal_ne_nil _
  lead zero := by
    show decimal (w / perGwei) = [0]
    rw [head?_decimal zero, decimal]
    rfl
  point := by
    unfold inGwei
    split
    · nofun
    · next filled => exact fun empty => filled (Option.some.inj empty)
  fine := by
    obtain ⟨zeros, length, -⟩ := exists_gwei_zeros w
    rw [decimals_inGwei]
    omega
  tail := by
    rw [decimals_inGwei]
    exact getLast?_significant _

/-- Whole gwei are written without a point, and no other amounts are. -/
theorem fraction_inGwei (w : Nat) : (inGwei w).fraction = none ↔ perGwei ∣ w := by
  obtain ⟨zeros, -, rest⟩ := exists_gwei_zeros w
  rw [Nat.dvd_iff_mod_eq_zero, ← rest]
  unfold inGwei
  split
  · next empty => simp [empty, natural]
  · next filled =>
    have rest_ne : natural (gweiFraction w) ≠ 0 := natural_ne_zero filled (getLast?_significant _)
    simp [rest_ne]

/-- **What is written in gwei is read back as the amount**, has one form and stands for one amount only.

In front of the point stand the digits of the whole gwei, of which the first is no zero unless it is the only one;
behind it are at most nine digits, of which the last is no zero; and there is a point only if the amount is no whole
number of gwei. -/
theorem gwei_lossless {w : Nat} (word : w ≤ word128Max) :
    parse? (gwei w ++ "gwei") = some w ∧
      (∃ n : Numeral, (gwei w).toList = n.chars ∧ n.IsCanonical 9 ∧ natural n.whole = w / perGwei ∧
        (n.fraction = none ↔ perGwei ∣ w)) ∧
      ∀ w', gwei w' = gwei w → w' = w := by
  have read (w : Nat) : scaled 9 (gwei w).toList = .ok w := by
    rw [toList_gwei, scaled_chars, worth_inGwei]
  refine ⟨?back, ⟨inGwei w, toList_gwei w, isCanonical_inGwei w, natural_decimal _, fraction_inGwei w⟩, ?one⟩
  case back =>
    let l : Layout := ⟨[], [], "gwei".toList, [], 9, List.forall_mem_nil _, by decide⟩
    have text : gwei w ++ "gwei" = l.text (inGwei w).chars := by
      rw [← toList_gwei]
      simp [Layout.text, l]
    have filled : (inGwei w).chars ≠ [] := Numeral.chars_ne_nil (decimal_ne_nil _)
    rw [text, parse?, read_text l filled, worth_inGwei, fit, if_pos (word.trans (by decide))]
    rfl
  case one =>
    intro w' same
    exact Except.ok.inj ((read w').symm.trans (same ▸ read w))

/-- Zeros between other digits stay. -/
theorem gwei_lossless_inner_zeros :
    1002000304050 ≤ word128Max ∧ gwei 1002000304050 = "1002.00030405" ∧
      parse? (gwei 1002000304050 ++ "gwei") = some 1002000304050 := by
  have word : 1002000304050 ≤ word128Max := by decide
  exact ⟨word, by decide, (gwei_lossless word).1⟩

end TxLoad.Wei
