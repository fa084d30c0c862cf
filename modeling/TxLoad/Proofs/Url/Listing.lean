import TxLoad.Proofs.Url.Normalization

/-!
# Lists of addresses

A list of addresses is one text, cut at its separators. Cutting undoes joining, so it does not matter which separators
stand between the entries, nor where a list is cut into two.

- `Joined` texts stand in a row with a separator between any two neighbours; a text is its pieces, joined
  (`joined_splitOnAny`);
- what stands in front of a separator and what stands behind it are cut on their own (`splitOnAny_append`);
- `Url.pieces` of joined texts are the pieces of each (`pieces_joined`), and a text without separators is its only
  piece (`pieces_of_plain`);
- `Url.named` are the addresses that texts name: those of their pieces that are not blank, in order;
- **a list names what the entries that are joined in it name** (`parseList_joined`, `flatMap_parseList`), and every
  address names a scheme (`isInfix_of_mem_named`).
-/

namespace TxLoad

namespace Text

/-! ## Cutting -/

section Cutting

variable {α : Type} {p : α → Bool}

/-- A list is cut as the library cuts it. -/
theorem splitOnAny_eq_splitOnP (as : List α) : splitOnAny p as = as.splitOnP p := by
  induction as with
  | nil => rfl
  | cons a as ih =>
    rw [splitOnAny, List.splitOnP_cons_eq_if_modifyHead, ih]
    by_cases cut : p a = true
    · rw [if_pos cut, if_pos cut]
    · rw [if_neg cut, if_neg cut]
      obtain ⟨piece, rest, pieces⟩ := List.exists_cons_of_ne_nil (List.splitOnP_ne_nil p as)
      rw [pieces]
      rfl

/-- **Both sides of a separator are cut on their own.** -/
theorem splitOnAny_append {c : α} (cut : p c = true) (as bs : List α) :
    splitOnAny p (as ++ c :: bs) = splitOnAny p as ++ splitOnAny p bs := by
  simp only [splitOnAny_eq_splitOnP]
  exact List.splitOnP_append_cons as bs cut

theorem splitOnAny_of_plain {as : List α} (plain : ∀ a ∈ as, p a = false) : splitOnAny p as = [as] := by
  rw [splitOnAny_eq_splitOnP, List.splitOnP_eq_singleton plain]

end Cutting

/-! ## Joining -/

/-- Texts in a row, with a separator between any two neighbours. -/
inductive Joined (p : Char → Bool) : List String → String → Prop
  | none : Joined p [] ""
  | one (x : String) : Joined p [x] x
  | more (x : String) {c : Char} {y : String} {ys : List String} {t : String} :
    p c = true → Joined p (y :: ys) t → Joined p (x :: y :: ys) (x ++ String.singleton c ++ t)

namespace Joined

variable {p q : Char → Bool} {xs : List String} {t : String}

theorem mono (h : Joined p xs t) (wider : ∀ c, p c = true → q c = true) : Joined q xs t := by
  induction h with
  | none => exact none
  | one x => exact one x
  | more x cut _ ih => exact more x (wider _ cut) ih

/-- What stands in front of the first text stands in front of all. -/
theorem prepend (s : String) {x : String} (h : Joined p (x :: xs) t) : Joined p ((s ++ x) :: xs) (s ++ t) := by
  cases h with
  | one x => exact one _
  | more x cut rest =>
    rw [← String.append_assoc, ← String.append_assoc]
    exact more _ cut rest

end Joined

theorem toList_separated (x : String) (c : Char) (t : String) :
    (x ++ String.singleton c ++ t).toList = x.toList ++ c :: t.toList := by
  simp

/-- **A text is its pieces, joined.** -/
theorem joined_splitOnAny {p : Char → Bool} (cs : List Char) :
    Joined p ((splitOnAny p cs).map .ofList) (.ofList cs) := by
  induction cs with
  | nil => exact .one _
  | cons c cs ih =>
    rw [splitOnAny_eq_splitOnP] at ih
    rw [splitOnAny, splitOnAny_eq_splitOnP, String.ofList_cons]
    obtain ⟨piece, rest, pieces⟩ := List.exists_cons_of_ne_nil (List.splitOnP_ne_nil p cs)
    rw [pieces] at ih ⊢
    split
    · next cut => exact .more "" cut ih
    · next =>
      rw [List.map_cons, String.ofList_cons]
      exact ih.prepend _

end Text

namespace Url

open Text

/-! ## Addresses -/

theorem isSeparator_iff {c : Char} : isSeparator c = true ↔ c ∈ [',', ' ', '\n', '\t'] := by
  simp [isSeparator, or_assoc]

/-- The pieces of a list of addresses. -/
def pieces (s : String) : List String := (splitOnAny isSeparator s.toList).map .ofList

/-- The addresses that texts name: their pieces that are not blank, in order, each of them normalised. -/
def named (xs : List String) : List String :=
  ((xs.flatMap pieces).filter fun piece => !(strip piece).isEmpty).map normalize

theorem pieces_append {c : Char} (cut : isSeparator c = true) (a b : String) :
    pieces (a ++ String.singleton c ++ b) = pieces a ++ pieces b := by
  rw [pieces, toList_separated, splitOnAny_append cut, List.map_append]
  rfl

theorem pieces_of_plain {s : String} (plain : ∀ c ∈ s.toList, isSeparator c = false) : pieces s = [s] := by
  rw [pieces, splitOnAny_of_plain plain, List.map_singleton, String.ofList_toList]

/-- The pieces of joined texts are the pieces of each. -/
theorem pieces_joined {xs : List String} {t : String} (h : Joined isSeparator xs t) (filled : xs ≠ []) :
    pieces t = xs.flatMap pieces := by
  induction h with
  | none => exact absurd rfl filled
  | one x => rw [List.flatMap_singleton]
  | more x cut _ ih => rw [pieces_append cut, ih (List.cons_ne_nil _ _), ← List.flatMap_cons]

theorem normalize_trim (cs : List Char) : normalize (.ofList (trim cs)) = normalize (.ofList cs) := by
  have again : trim (trim cs) = trim cs := trim_eq_self_iff.2 (isTrim_trim cs)
  simp only [normalize, String.toList_ofList, normalizeChars, again]

/-- A list names what its pieces name. -/
theorem parseList_eq (s : String) : parseList s = named [s] := by
  unfold parseList named pieces
  rw [List.flatMap_singleton]
  induction splitOnAny isSeparator s.toList with
  | nil => rfl
  | cons piece rest ih =>
    rw [List.filterMap_cons, List.map_cons, List.filter_cons, ih, strip, String.toList_ofList]
    cases trimmed : trim piece with
    | nil => rfl
    | cons c entry =>
      have filled : (!(String.ofList (c :: entry)).isEmpty) = true := by simp
      have same := normalize_trim piece
      rw [trimmed] at same
      rw [if_pos filled, List.map_cons, ← same]

/-- The addresses of lists in a row are those of all their texts. -/
theorem flatMap_parseList (xs : List String) : xs.flatMap parseList = named xs := by
  induction xs with
  | nil => rfl
  | cons x xs ih =>
    rw [List.flatMap_cons, ih, parseList_eq, named, named, named, List.flatMap_singleton, List.flatMap_cons,
      List.filter_append, List.map_append]

/-- **Both sides of a separator name their addresses on their own.** -/
theorem parseList_append {c : Char} (cut : isSeparator c = true) (a b : String) :
    parseList (a ++ String.singleton c ++ b) = parseList a ++ parseList b := by
  simp only [parseList_eq, named, List.flatMap_singleton, pieces_append cut, List.filter_append, List.map_append]

/-- A text without separators names one address, unless it is blank. -/
theorem parseList_of_plain {s : String} (plain : ∀ c ∈ s.toList, isSeparator c = false) :
    parseList s = if (strip s).isEmpty then [] else [normalize s] := by
  rw [parseList_eq, named, List.flatMap_singleton, pieces_of_plain plain, List.filter_singleton]
  cases (strip s).isEmpty <;> rfl

/-- **A list names what the texts that are joined in it name**, whatever stands between them. -/
theorem parseList_joined {xs : List String} {t : String} (h : Joined isSeparator xs t) : parseList t = named xs := by
  cases xs with
  | nil =>
    cases h
    rw [parseList_eq]
    rfl
  | cons x xs => rw [parseList_eq, named, named, List.flatMap_singleton, pieces_joined h (List.cons_ne_nil _ _)]

theorem isInfix_of_mem_named {xs : List String} {address : String} (mem : address ∈ named xs) :
    schemeMark <:+: address.toList := by
  obtain ⟨piece, -, rfl⟩ := List.mem_map.1 mem
  rw [normalize, String.toList_ofList]
  exact contains_iff_isInfix.1 (contains_normalizeChars _)

end Url

end TxLoad
