import TxLoad.Rlp
import Mathlib.Algebra.GroupWithZero.Nat
import Mathlib.Data.List.Induction

/-!
# What is written is read back

- digits without leading zeros: `Bytes.minimal n` never starts with a zero (`head?_minimal`), takes no more bytes than
  its number needs (`length_minimal_le`), and is the only such string for its number (`minimal_toNat`);
- the first bytes of an item announce it: `announced?_encodeText` and `announced?_header_list`, and in the other
  direction `announced?_cases`;
- `decode_of_encode` and `encode_of_decode`: reading from the front of some bytes undoes writing there, and nothing
  else does;
- `Item.decode?_encode` and `Item.encode_of_decode?`: so the bytes that read as an item are the ones it is written as.
-/

namespace TxLoad

namespace Bytes

/-! ## Digits without leading zeros -/

theorem minimal_of_ne_zero {n : Nat} (h : n ≠ 0) : minimal n = minimal (n / 256) ++ [UInt8.ofNat n] := by
  rw [minimal, if_neg h]

theorem minimal_ne_nil {n : Nat} (h : n ≠ 0) : minimal n ≠ [] := by
  simp [minimal_of_ne_zero h]

/-- There are no more digits than the number needs. -/
theorem length_minimal_le {n width : Nat} (fits : n < 256 ^ width) : (minimal n).length ≤ width := by
  induction width generalizing n with
  | zero =>
    have none : n = 0 := by simpa using fits
    simp [none, minimal]
  | succ width ih =>
    by_cases h : n = 0
    · simp [h, minimal]
    · have shorter : n / 256 < 256 ^ width := (Nat.div_lt_iff_lt_mul (by decide)).2 (by rwa [← Nat.pow_succ])
      simpa [minimal_of_ne_zero h] using ih shorter

/-- The first digit is not zero. -/
theorem head?_minimal (n : Nat) : (minimal n).head? ≠ some 0 := by
  induction n using minimal.induct with
  | case1 => simp [minimal]
  | case2 n h ih =>
    rw [minimal_of_ne_zero h]
    by_cases one : n / 256 = 0
    · -- The only digit is the number itself.
      have small : n < 256 := by omega
      intro zero
      have : UInt8.ofNat n = 0 := by simpa [one, minimal] using zero
      have := congrArg UInt8.toNat this
      rw [UInt8.toNat_ofNat', Nat.mod_eq_of_lt small] at this
      exact h this
    · obtain ⟨d, ds, split⟩ := List.exists_cons_of_ne_nil (minimal_ne_nil one)
      rw [split] at ih ⊢
      simpa using ih

theorem sharp_of_concat {bs : Bytes} {b : UInt8} (sharp : (bs ++ [b]).head? ≠ some 0) : bs.head? ≠ some 0 := by
  cases bs with
  | nil => simp
  | cons c cs => simpa using sharp

/-- Digits without leading zeros are not zero, if there are any. -/
theorem toNat_pos {bs : Bytes} (sharp : bs.head? ≠ some 0) (filled : bs ≠ []) : 0 < toNat bs := by
  induction bs using List.reverseRecOn with
  | nil => exact absurd rfl filled
  | append_singleton bs b ih =>
    rw [toNat_append_singleton]
    by_cases only : bs = []
    · have last : b.toNat ≠ 0 := fun zero => sharp (by simpa [only] using UInt8.toNat_inj.1 zero)
      omega
    · have := ih (sharp_of_concat sharp) only
      omega

/-- Digits without leading zeros are the digits of their number. -/
theorem minimal_toNat {bs : Bytes} (sharp : bs.head? ≠ some 0) : minimal (toNat bs) = bs := by
  induction bs using List.reverseRecOn with
  | nil => simp [toNat, minimal]
  | append_singleton bs b ih =>
    have small := b.toNat_lt
    have pos := toNat_pos sharp (by simp)
    rw [toNat_append_singleton] at pos ⊢
    have front : (toNat bs * 256 + b.toNat) / 256 = toNat bs := by omega
    have last : UInt8.ofNat (toNat bs * 256 + b.toNat) = b := by
      apply UInt8.toNat_inj.1
      rw [UInt8.toNat_ofNat']
      omega
    rw [minimal_of_ne_zero (Nat.ne_of_gt pos), front, last, ih (sharp_of_concat sharp)]

end Bytes

namespace Rlp

/-! ## What the first bytes announce -/

section Announcements

variable {n : Nat} {bs rest : Bytes}

theorem longLength?_minimal (long : 55 < n) (rest : Bytes) :
    longLength? (Bytes.minimal n).length (Bytes.minimal n ++ rest) = some (n, rest) := by
  simp [longLength?, Bytes.head?_minimal, long]

/-- The digits of a long length are the ones it is written with. -/
theorem eq_of_longLength? {size : Nat} (read : longLength? size bs = some (n, rest)) :
    55 < n ∧ (Bytes.minimal n).length = size ∧ bs = Bytes.minimal n ++ rest := by
  simp only [longLength?, Option.ite_none_right_eq_some, Option.some.injEq, Prod.mk.injEq] at read
  obtain ⟨⟨width, sharp, long⟩, rfl, rfl⟩ := read
  rw [Bytes.minimal_toNat sharp]
  exact ⟨long, width, (List.take_append_drop size bs).symm⟩

theorem length_minimal_of_long (long : 55 < n) (fits : n < 256 ^ 8) :
    0 < (Bytes.minimal n).length ∧ (Bytes.minimal n).length ≤ 8 :=
  ⟨List.length_pos_iff.2 (Bytes.minimal_ne_nil (by omega)), Bytes.length_minimal_le fits⟩

/-- The first bytes of a string announce it, unless it is one that stands for itself. -/
theorem announced?_header_text (fits : n < 256 ^ 8) (high : n = 1 → ¬ rest.headD 0x80 < 0x80) :
    announced? (header 0x80 n ++ rest) = some (.text n, rest) := by
  by_cases short : n ≤ 55
  · have first : (UInt8.ofNat (0x80 + n)).toNat = 0x80 + n := by rw [UInt8.toNat_ofNat']; omega
    have other : ¬(0x80 + n = 0x81 ∧ rest.headD 0x80 < 0x80) := fun h => high (by omega) h.2
    simp only [header, if_pos short, List.singleton_append, announced?, first, if_neg other,
      if_neg (show ¬ 0x80 + n < 0x80 by omega), if_pos (show 0x80 + n ≤ 0xb7 by omega), Nat.add_sub_cancel_left]
  · have long : 55 < n := by omega
    obtain ⟨pos, le⟩ := length_minimal_of_long long fits
    have first : (UInt8.ofNat (0x80 + 55 + (Bytes.minimal n).length)).toNat = 0xb7 + (Bytes.minimal n).length := by
      rw [UInt8.toNat_ofNat']; omega
    simp only [header, if_neg short, List.cons_append, announced?, first,
      if_neg (show ¬ 0xb7 + (Bytes.minimal n).length < 0x80 by omega),
      if_neg (show ¬ 0xb7 + (Bytes.minimal n).length ≤ 0xb7 by omega),
      if_pos (show 0xb7 + (Bytes.minimal n).length ≤ 0xbf by omega), Nat.add_sub_cancel_left,
      longLength?_minimal long, Option.map_some]

/-- The first bytes of a list announce it. -/
theorem announced?_header_list (fits : n < 256 ^ 8) (rest : Bytes) :
    announced? (header 0xc0 n ++ rest) = some (.list n, rest) := by
  by_cases short : n ≤ 55
  · have first : (UInt8.ofNat (0xc0 + n)).toNat = 0xc0 + n := by rw [UInt8.toNat_ofNat']; omega
    simp only [header, if_pos short, List.singleton_append, announced?, first,
      if_neg (show ¬ 0xc0 + n < 0x80 by omega), if_neg (show ¬ 0xc0 + n ≤ 0xb7 by omega),
      if_neg (show ¬ 0xc0 + n ≤ 0xbf by omega), if_pos (show 0xc0 + n ≤ 0xf7 by omega), Nat.add_sub_cancel_left]
  · have long : 55 < n := by omega
    obtain ⟨pos, le⟩ := length_minimal_of_long long fits
    have first : (UInt8.ofNat (0xc0 + 55 + (Bytes.minimal n).length)).toNat = 0xf7 + (Bytes.minimal n).length := by
      rw [UInt8.toNat_ofNat']; omega
    simp only [header, if_neg short, List.cons_append, announced?, first,
      if_neg (show ¬ 0xf7 + (Bytes.minimal n).length < 0x80 by omega),
      if_neg (show ¬ 0xf7 + (Bytes.minimal n).length ≤ 0xb7 by omega),
      if_neg (show ¬ 0xf7 + (Bytes.minimal n).length ≤ 0xbf by omega),
      if_neg (show ¬ 0xf7 + (Bytes.minimal n).length ≤ 0xf7 by omega), Nat.add_sub_cancel_left,
      longLength?_minimal long, Option.map_some]

theorem encodeText_of_low {b : UInt8} (low : b < 0x80) : encodeText [b] = [b] := if_pos low

theorem encodeText_of_high (high : bs.length = 1 → ¬ bs.headD 0x80 < 0x80) :
    encodeText bs = header 0x80 bs.length ++ bs := by
  match bs with
  | [] => rfl
  | [b] => exact if_neg (high rfl)
  | _ :: _ :: _ => rfl

/-- A string is one byte that stands for itself, or it has its length in front. -/
theorem low_or_high (bs : Bytes) : (∃ b : UInt8, b < 0x80 ∧ bs = [b]) ∨ (bs.length = 1 → ¬ bs.headD 0x80 < 0x80) := by
  match bs with
  | [b] =>
    by_cases low : b < 0x80
    · exact .inl ⟨b, low, rfl⟩
    · exact .inr fun _ => low
  | [] | _ :: _ :: _ => exact .inr (by simp)

/-- A string behind which anything may follow is announced, and it is what follows. -/
theorem announced?_encodeText (fits : bs.length < 256 ^ 8) (rest : Bytes) :
    announced? (encodeText bs ++ rest) = some (.text bs.length, bs ++ rest) := by
  rcases low_or_high bs with ⟨b, low, rfl⟩ | high
  · rw [encodeText_of_low low]
    exact if_pos (UInt8.lt_iff_toNat_lt.1 low)
  · rw [encodeText_of_high high, List.append_assoc]
    refine announced?_header_text fits fun one => ?_
    obtain ⟨b, rfl⟩ := List.length_eq_one_iff.1 one
    exact high one

theorem header_sub_of_short {offset : Nat} {b : UInt8} (le : offset ≤ b.toNat) (short : b.toNat ≤ offset + 55) :
    header offset (b.toNat - offset) = [b] := by
  rw [header, if_pos (by omega), Nat.add_sub_cancel' le, UInt8.ofNat_toNat]

theorem header_of_long {offset : Nat} {b : UInt8} (long : 55 < n)
    (size : (Bytes.minimal n).length = b.toNat - (offset + 55)) : header offset n = b :: Bytes.minimal n := by
  have pos := List.length_pos_iff.2 (Bytes.minimal_ne_nil (n := n) (by omega))
  simp only [header, if_neg (show ¬ n ≤ 55 by omega), size]
  rw [Nat.add_sub_cancel' (by omega), UInt8.ofNat_toNat]

/-- What the first bytes can announce: a byte that stands for itself, a string with its length in front, or a list. -/
theorem announced?_cases {what : Announced} (read : announced? bs = some (what, rest)) :
    (∃ b : UInt8, ∃ bs', b < 0x80 ∧ what = .text 1 ∧ bs = b :: bs' ∧ rest = b :: bs') ∨
      (∃ n, what = .text n ∧ bs = header 0x80 n ++ rest ∧ (n = 1 → ¬ rest.headD 0x80 < 0x80)) ∨
      ∃ n, what = .list n ∧ bs = header 0xc0 n ++ rest := by
  cases bs with
  | nil => cases read
  | cons b bs =>
    have small := b.toNat_lt
    simp only [announced?] at read
    split_ifs at read with itself text low longText list
    · cases read
      exact .inl ⟨b, bs, UInt8.lt_iff_toNat_lt.2 itself, rfl, rfl, rfl⟩
    · cases read
      refine .inr (.inl ⟨_, rfl, ?_, fun one => fun lt => low ⟨by omega, lt⟩⟩)
      rw [header_sub_of_short (by omega) (by omega), List.singleton_append]
    · simp only [Option.map_eq_some_iff, Prod.exists, Prod.mk.injEq] at read
      obtain ⟨n, _, digits, rfl, rfl⟩ := read
      obtain ⟨long, size, rfl⟩ := eq_of_longLength? digits
      refine .inr (.inl ⟨n, rfl, ?_, by omega⟩)
      rw [header_of_long long size, List.cons_append]
    · cases read
      refine .inr (.inr ⟨_, rfl, ?_⟩)
      rw [header_sub_of_short (by omega) (by omega), List.singleton_append]
    · simp only [Option.map_eq_some_iff, Prod.exists, Prod.mk.injEq] at read
      obtain ⟨n, _, digits, rfl, rfl⟩ := read
      obtain ⟨long, size, rfl⟩ := eq_of_longLength? digits
      refine .inr (.inr ⟨n, rfl, ?_⟩)
      rw [header_of_long long size, List.cons_append]

/-- Bytes that announce a string start with its encoding, if they are long enough. -/
theorem eq_of_announced?_text (read : announced? bs = some (.text n, rest)) (le : n ≤ rest.length) :
    bs = encodeText (rest.take n) ++ rest.drop n := by
  rcases announced?_cases read with ⟨b, bs', low, one, rfl, rfl⟩ | ⟨_, same, rfl, high⟩ | ⟨_, other, -⟩
  · cases one
    simp [encodeText_of_low low]
  · cases same
    have width : (rest.take n).length = n := List.length_take_of_le le
    rw [encodeText_of_high, width, List.append_assoc, List.take_append_drop]
    intro one
    have n_one : n = 1 := by omega
    subst n_one
    cases rest with
    | nil => simp at le
    | cons b rest => exact high rfl
  · cases other

/-- Bytes that announce a list start with its first bytes. -/
theorem eq_of_announced?_list (read : announced? bs = some (.list n, rest)) : bs = header 0xc0 n ++ rest := by
  rcases announced?_cases read with ⟨_, _, _, other, -⟩ | ⟨_, other, -⟩ | ⟨_, same, eq⟩
  · cases other
  · cases other
  · cases same
    exact eq

end Announcements

/-! ## Items -/

theorem length_header_pos (offset n : Nat) : 0 < (header offset n).length := by
  unfold header
  split <;> simp

theorem length_header_le {n : Nat} (offset : Nat) (fits : n < 256 ^ 8) : (header offset n).length ≤ 9 := by
  have digits := Bytes.length_minimal_le fits
  unfold header
  split
  · exact Nat.le_add_left 1 8
  · exact Nat.succ_le_succ digits

/-- A string takes at least one byte, and no fewer than it has. -/
theorem length_encodeText (bs : Bytes) : 0 < (encodeText bs).length ∧ bs.length ≤ (encodeText bs).length := by
  rcases low_or_high bs with ⟨b, low, rfl⟩ | high
  · simp [encodeText_of_low low]
  · have := length_header_pos 0x80 bs.length
    rw [encodeText_of_high high, List.length_append]
    omega

/-- A string takes no more than nine bytes besides those it has. -/
theorem length_encodeText_le (bs : Bytes) (fits : bs.length < 256 ^ 8) : (encodeText bs).length ≤ bs.length + 9 := by
  rcases low_or_high bs with ⟨b, low, rfl⟩ | high
  · simp [encodeText_of_low low]
  · have := length_header_le 0x80 fits
    rw [encodeText_of_high high, List.length_append]
    omega

theorem Item.length_encode_pos (item : Item) : 0 < item.encode.length := by
  cases item with
  | text bs => exact (length_encodeText bs).1
  | list items =>
    have := length_header_pos 0xc0 (encodeAll items).length
    rw [Item.encode, List.length_append]
    omega

theorem encodeAll_cons (item : Item) (items : List Item) :
    encodeAll (item :: items) = item.encode ++ encodeAll items := by
  rw [encodeAll]

theorem decodeAllWith_nil (fuel : Nat) : decodeAllWith fuel [] = some [] := by
  rw [decodeAllWith]

/-- As long as there are bytes, items are read one after the other. -/
theorem decodeAllWith_succ {bs : Bytes} (fuel : Nat) (filled : bs ≠ []) :
    decodeAllWith (fuel + 1) bs =
      (decodeWith fuel bs).bind fun read => (decodeAllWith fuel read.2).map (read.1 :: ·) := by
  cases bs with
  | nil => exact absurd rfl filled
  | cons b bs =>
    rw [decodeAllWith]
    · cases decodeWith fuel (b :: bs) <;> rfl
    · exact filled

/-- An item is read from the front of whatever it is written in front of, and items from what they are written as:
reading one item and reading many go down together with the fuel. -/
theorem decode_of_encode (fuel : Nat) :
    (∀ (item : Item) (rest : Bytes), item.encode.length < 256 ^ 8 → 2 * item.encode.length ≤ fuel →
      decodeWith fuel (item.encode ++ rest) = some (item, rest)) ∧
      ∀ items : List Item, (encodeAll items).length < 256 ^ 8 → 2 * (encodeAll items).length + 1 ≤ fuel →
        decodeAllWith fuel (encodeAll items) = some items := by
  -- a list takes one unit of fuel for itself and one for each of its items, and both are paid for by first bytes
  induction fuel with
  | zero =>
    refine ⟨fun item rest _ enough => ?_, fun items _ enough => by omega⟩
    have := item.length_encode_pos
    omega
  | succ fuel ih =>
    obtain ⟨one, many⟩ := ih
    constructor
    · intro item rest fits enough
      cases item with
      | text bs =>
        have le := (length_encodeText bs).2
        rw [Item.encode] at fits ⊢
        rw [decodeWith, announced?_encodeText (by omega)]
        simp
      | list items =>
        have pos := length_header_pos 0xc0 (encodeAll items).length
        rw [Item.encode, List.length_append] at fits enough
        rw [Item.encode, List.append_assoc, decodeWith, announced?_header_list (by omega)]
        have contents := many items (by omega) (by omega)
        simp [contents]
    · intro items fits enough
      cases items with
      | nil => exact decodeAllWith_nil _
      | cons item items =>
        have pos := item.length_encode_pos
        rw [encodeAll_cons, List.length_append] at fits enough
        have first := one item (encodeAll items) (by omega) (by omega)
        have others := many items (by omega) (by omega)
        have filled : item.encode ++ encodeAll items ≠ [] := by
          intro empty
          have := congrArg List.length empty
          rw [List.length_append, List.length_nil] at this
          omega
        rw [encodeAll_cons, decodeAllWith_succ fuel filled, first]
        simp [others]

/-- What was read, and what is left, is what was there: reading one item and reading many go down together with the
fuel. -/
theorem encode_of_decode (fuel : Nat) :
    (∀ {bs item rest}, decodeWith fuel bs = some (item, rest) → bs = item.encode ++ rest) ∧
      ∀ {bs items}, decodeAllWith fuel bs = some items → bs = encodeAll items := by
  induction fuel with
  | zero =>
    refine ⟨fun read => by simp [decodeWith] at read, fun {bs items} read => ?_⟩
    cases bs with
    | nil =>
      cases (decodeAllWith_nil 0).symm.trans read
      rw [encodeAll]
    | cons b bs => simp [decodeAllWith] at read
  | succ fuel ih =>
    obtain ⟨one, many⟩ := ih
    constructor
    · intro bs item rest read
      rw [decodeWith] at read
      split at read
      next => cases read
      next n behind announced =>
        split_ifs at read with le
        cases read
        exact eq_of_announced?_text announced le
      next n behind announced =>
        split_ifs at read with le
        obtain ⟨items, contents, same⟩ := Option.map_eq_some_iff.1 read
        cases same
        have width : (encodeAll items).length = n := by rw [← many contents, List.length_take_of_le le]
        rw [Item.encode, width, ← many contents, List.append_assoc, List.take_append_drop]
        exact eq_of_announced?_list announced
    · intro bs items read
      by_cases filled : bs = []
      · subst filled
        cases (decodeAllWith_nil _).symm.trans read
        rw [encodeAll]
      · rw [decodeAllWith_succ fuel filled] at read
        obtain ⟨⟨item, behind⟩, first, read⟩ := Option.bind_eq_some_iff.1 read
        obtain ⟨others, rest, rfl⟩ := Option.map_eq_some_iff.1 read
        rw [encodeAll_cons, ← many rest]
        exact one first

theorem Item.decode?_encode {item : Item} (fits : item.encode.length < 256 ^ 8) :
    Item.decode? item.encode = some item := by
  have whole := (decode_of_encode (2 * item.encode.length + 2)).1 item [] fits (by omega)
  rw [List.append_nil] at whole
  rw [Item.decode?, whole]

theorem Item.encode_of_decode? {bs : Bytes} {item : Item} (read : Item.decode? bs = some item) : bs = item.encode := by
  rw [Item.decode?] at read
  split at read
  next whole =>
    cases read
    rw [(encode_of_decode _).1 whole, List.append_nil]
  next => cases read

end Rlp

end TxLoad
