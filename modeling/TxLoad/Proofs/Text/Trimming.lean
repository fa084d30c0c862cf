import TxLoad.Text.Blank
import Mathlib.Data.List.DropRight

/-!
# What trimming leaves

- `dropWhileEnd_concat`: a final run is taken off from the end on, so that it is the library's `List.rdropWhile`;
- `IsTrim` texts neither start nor end in a blank; they are the results of `trim` (`isTrim_trim`) and the texts that it
  leaves alone (`trim_eq_self_iff`);
- `trim_surround`: whatever blanks stand around such a text, it is what is left;
- `contains_iff_isInfix`: `contains` finds every part.
-/

namespace TxLoad.Text

section Ends

variable {α : Type} {p : α → Bool}

/-- The last element goes if it has the property, and keeps all others if not. -/
theorem dropWhileEnd_concat (as : List α) (a : α) :
    dropWhileEnd p (as ++ [a]) = if p a then dropWhileEnd p as else as ++ [a] := by
  induction as with
  | nil => rfl
  | cons b as ih =>
    rw [List.cons_append, dropWhileEnd, ih]
    by_cases h : p a
    · simp only [h, if_true, dropWhileEnd]
    · simp only [h]
      cases as <;> rfl

theorem dropWhileEnd_eq_rdropWhile (as : List α) : dropWhileEnd p as = as.rdropWhile p := by
  induction as using List.reverseRecOn with
  | nil => rfl
  | append_singleton as a ih => rw [dropWhileEnd_concat, List.rdropWhile_concat, ih]

theorem dropWhileEnd_isPrefix (as : List α) : dropWhileEnd p as <+: as := by
  rw [dropWhileEnd_eq_rdropWhile]
  exact List.rdropWhile_prefix p as

theorem getLast?_dropWhileEnd {as : List α} {a : α} (last : (dropWhileEnd p as).getLast? = some a) : p a = false := by
  rw [dropWhileEnd_eq_rdropWhile] at last
  obtain ⟨filled, rfl⟩ := List.mem_getLast?_eq_getLast last
  simpa using List.rdropWhile_last_not p as filled

/-- A list is left alone if it does not end in the run. -/
theorem dropWhileEnd_eq_self_iff {as : List α} :
    dropWhileEnd p as = as ↔ ∀ a, as.getLast? = some a → p a = false := by
  constructor
  · intro same a last
    exact getLast?_dropWhileEnd (same ▸ last)
  · intro other
    rw [dropWhileEnd_eq_rdropWhile, List.rdropWhile_eq_self_iff]
    intro filled
    simp [other _ (List.getLast?_eq_some_getLast filled)]

theorem dropWhileEnd_append {as bs : List α} (all : ∀ b ∈ bs, p b) : dropWhileEnd p (as ++ bs) = dropWhileEnd p as := by
  rw [dropWhileEnd_eq_rdropWhile, dropWhileEnd_eq_rdropWhile, List.rdropWhile, List.reverse_append,
    List.dropWhile_append_of_pos fun b mem => all b (List.mem_reverse.1 mem)]
  rfl

end Ends

/-! ## Texts without blanks around them -/

/-- A text that neither starts nor ends in a blank. -/
structure IsTrim (cs : List Char) : Prop where
  first : ∀ c, cs.head? = some c → isBlank c = false
  last : ∀ c, cs.getLast? = some c → isBlank c = false

theorem isTrim_nil : IsTrim [] := ⟨by simp, by simp⟩

/-- Between two such texts anything may stand. -/
theorem IsTrim.join {cs ds : List Char} (h : IsTrim cs) (mid : List Char) (h' : IsTrim ds) (filled : cs ≠ [])
    (filled' : ds ≠ []) : IsTrim (cs ++ mid ++ ds) := by
  constructor
  · intro c first
    rw [List.append_assoc, List.head?_append_of_ne_nil _ filled] at first
    exact h.first c first
  · intro c last
    rw [List.getLast?_append_of_ne_nil _ filled'] at last
    exact h'.last c last

/-- Trimming leaves no blank at the start or at the end. -/
theorem isTrim_trim (cs : List Char) : IsTrim (trim cs) := by
  refine ⟨fun c here => ?first, fun c last => getLast?_dropWhileEnd last⟩
  case first =>
    obtain ⟨rest, split⟩ : trimEnd (trimStart cs) <+: trimStart cs := dropWhileEnd_isPrefix _
    have start : (trimStart cs).head? = some c := by
      rw [← split, List.head?_append, show (trimEnd (trimStart cs)).head? = some c from here]
      rfl
    have other := List.head?_dropWhile_not isBlank cs
    rw [show (cs.dropWhile isBlank).head? = some c from start] at other
    exact other

/-- Trimming leaves alone what has no blank at the start or at the end. -/
theorem trim_eq_self_iff {cs : List Char} : trim cs = cs ↔ IsTrim cs := by
  constructor
  · intro same
    exact same ▸ isTrim_trim cs
  · intro h
    have start : trimStart cs = cs := by
      cases cs with
      | nil => rfl
      | cons c cs => simp [trimStart, List.dropWhile, h.first c rfl]
    rw [trim, start]
    exact dropWhileEnd_eq_self_iff.2 h.last

/-- Blanks around a text do not count. -/
theorem trim_surround {before cs after : List Char} (front : ∀ c ∈ before, isBlank c) (h : IsTrim cs)
    (back : ∀ c ∈ after, isBlank c) : trim (before ++ cs ++ after) = cs := by
  cases cs with
  | nil =>
    have all : ∀ c ∈ before ++ [] ++ after, isBlank c := by
      simpa [or_imp, forall_and] using And.intro front back
    rw [trim, trimStart, List.dropWhile_eq_nil_iff.2 all]
    rfl
  | cons c cs =>
    have start : trimStart (before ++ (c :: cs) ++ after) = c :: cs ++ after := by
      rw [List.append_assoc, trimStart, List.dropWhile_append_of_pos front, List.cons_append, List.dropWhile,
        h.first c rfl]
    rw [trim, start, trimEnd, dropWhileEnd_append back]
    exact dropWhileEnd_eq_self_iff.2 h.last

theorem trim_append_blanks {cs after : List Char} (h : IsTrim cs) (back : ∀ c ∈ after, isBlank c) :
    trim (cs ++ after) = cs :=
  trim_surround (List.forall_mem_nil _) h back

/-- The first character that is no blank is where the trimmed text starts. -/
theorem trim_of_sharp {before : List Char} {c : Char} (front : ∀ b ∈ before, isBlank b) (sharp : isBlank c = false)
    (cs : List Char) : ∃ rest, trim (before ++ c :: cs) = c :: rest := by
  have start : trimStart (before ++ c :: cs) = c :: cs := by
    rw [trimStart, List.dropWhile_append_of_pos front, List.dropWhile, sharp]
  rw [trim, start, trimEnd, dropWhileEnd]
  cases dropWhileEnd isBlank cs with
  | nil => exact ⟨[], by simp [sharp]⟩
  | cons d ds => exact ⟨d :: ds, rfl⟩

/-! ## Parts of a text -/

theorem contains_iff_isInfix {part : List Char} : ∀ {cs : List Char}, contains part cs = true ↔ part <:+: cs
  | [] => by simp [contains]
  | c :: cs => by
    rw [contains, Bool.or_eq_true, List.isPrefixOf_iff_prefix, contains_iff_isInfix, List.infix_cons_iff]

end TxLoad.Text
