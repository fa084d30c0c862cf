import TxLoad.Proofs.Amount.Numeral
import TxLoad.Proofs.Settings.Validation
import TxLoad.Proofs.Text.Trimming

/-!
# Amounts as they are written

A `Layout` is all that stands around the number of an amount: blanks, and one of the spellings of a unit in any letter
case.

- A number that ends in no letter hides no ending (`splitUnit_append`), so that the unit of the layout is the one that
  is found (`splitUnit_text`); what starts with another character than a letter still does so without its unit
  (`splitUnit_isPrefix`);
- a numeral in a layout is read as its worth if that fits, and not at all if not (`parse?_text`);
- **the exact value is read where it fits 256 bits, and nothing where there is no number or a negative one**
  (`amounts_exact`);
- **an amount that does not fit is refused** wherever amounts are configured (`overflow_refused`).
-/

namespace TxLoad

namespace Wei

open Text

/-- The spellings of the units in lower case, with the decimal places that one of each has in wei; ether can go without
saying. -/
def spellings : List (String × Nat) := [("wei", 0), ("gwei", 9), ("eth", 18), ("ether", 18), ("", 18)]

/-- What stands around a number: blanks, and the spelling of a unit of so many decimal places. -/
structure Layout where
  before : List Char
  between : List Char
  unit : List Char
  after : List Char
  places : Nat
  blank : ∀ c ∈ before ++ between ++ after, isBlank c = true
  spelled : (String.ofList (unit.map Char.toLower), places) ∈ spellings

/-- The text with a number in the layout. -/
def Layout.text (l : Layout) (number : List Char) : String :=
  .ofList (l.before ++ number ++ l.between ++ l.unit ++ l.after)

/-! ## Letters and blanks -/

theorem toLower_of_not_isAlpha {c : Char} (h : c.isAlpha = false) : c.toLower = c := by
  obtain ⟨upper, -⟩ : c.isUpper = false ∧ c.isLower = false := Bool.or_eq_false_iff.1 h
  exact dif_neg (of_decide_eq_false upper)

/-- A blank is no letter. -/
theorem not_isAlpha_of_isBlank {c : Char} (h : isBlank c = true) : c.isAlpha = false := by
  rw [← Bool.not_eq_true]
  intro letter
  have inside : 65 ≤ c.toNat ∧ c.toNat ≤ 90 ∨ 97 ≤ c.toNat ∧ c.toNat ≤ 122 :=
    (Bool.or_eq_true_iff.1 letter).imp of_decide_eq_true fun lower => by
      obtain ⟨least, most⟩ := Bool.and_eq_true_iff.1 lower
      exact ⟨of_decide_eq_true least, of_decide_eq_true most⟩
  simp only [isBlank, Bool.or_eq_true, Bool.and_eq_true, beq_iff_eq, decide_eq_true_eq] at h
  omega

theorem map_toLower_of_plain {cs : List Char} (h : ∀ c ∈ cs, c.isAlpha = false) : cs.map Char.toLower = cs :=
  (List.map_congr_left fun c mem => toLower_of_not_isAlpha (h c mem)).trans (List.map_id cs)

/-! ## Endings -/

/-- An ending of letters stands behind a text that ends in no letter if it stands behind what follows that text. -/
theorem suffix_append_iff {ending front back : List Char} (letters : ∀ c ∈ ending, c.isAlpha = true)
    (plain : ∀ c, front.getLast? = some c → c.isAlpha = false) : ending <:+ front ++ back ↔ ending <:+ back := by
  constructor
  · intro h
    rcases List.suffix_or_suffix_of_suffix h (List.suffix_append front back) with inside | ⟨more, split⟩
    · exact inside
    · -- what the ending holds besides `back` ends where `front` ends
      obtain ⟨rest, whole⟩ := h
      rw [← split, ← List.append_assoc] at whole
      have same : rest ++ more = front := List.append_cancel_right whole
      cases last : more.getLast? with
      | none => exact ⟨[], by rw [← split, List.getLast?_eq_none_iff.1 last]; rfl⟩
      | some c =>
        have letter : c.isAlpha = true := letters c (split ▸ List.mem_append_left _ (List.mem_of_getLast? last))
        rw [plain c (by rw [← same, List.getLast?_append, last]; rfl)] at letter
        cases letter
  · exact fun h => h.trans (List.suffix_append front back)

/-- What is in front of an ending of letters grows with the text in front of it, if that ends in no letter. -/
theorem dropSuffix?_append {ending front back : List Char} (letters : ∀ c ∈ ending, c.isAlpha = true)
    (plain : ∀ c, front.getLast? = some c → c.isAlpha = false) :
    dropSuffix? ending (front ++ back) = (dropSuffix? ending back).map (front ++ ·) := by
  simp only [dropSuffix?, List.isSuffixOf_iff_suffix, suffix_append_iff letters plain]
  split
  · next h =>
    rw [Option.map_some, List.length_append, Nat.add_sub_assoc h.length_le, List.take_length_add_append]
  · rfl

theorem isAlpha_of_mem_endings : ∀ e ∈ endings, ∀ c ∈ e.1, c.isAlpha = true := by
  have all : endings.all (fun e => e.1.all Char.isAlpha) = true := by decide
  simpa only [List.all_eq_true] using all

/-- What is in front of an ending, with the unit of the ending. -/
def frontOf? (cs : List Char) (e : List Char × Denomination) : Option (List Char × Denomination) :=
  (dropSuffix? e.1 cs).map (·, e.2)

theorem splitUnit_eq (cs : List Char) : splitUnit cs = (endings.findSome? (frontOf? cs)).getD (cs, .ether) := rfl

/-- The unit is looked for behind a text that ends in no letter. -/
theorem splitUnit_append {front back : List Char} (plain : ∀ c, front.getLast? = some c → c.isAlpha = false) :
    splitUnit (front ++ back) = (front ++ (splitUnit back).1, (splitUnit back).2) := by
  have each : ∀ es : List (List Char × Denomination), (∀ e ∈ es, ∀ c ∈ e.1, c.isAlpha = true) →
      es.findSome? (frontOf? (front ++ back)) = (es.findSome? (frontOf? back)).map fun r => (front ++ r.1, r.2) := by
    intro es letters
    induction es with
    | nil => rfl
    | cons e es ih =>
      obtain ⟨here, later⟩ := List.forall_mem_cons.1 letters
      rw [List.findSome?_cons, List.findSome?_cons, frontOf?, dropSuffix?_append here plain, frontOf?]
      cases dropSuffix? e.1 back with
      | none => exact ih later
      | some rest => rfl
  rw [splitUnit_eq, each endings isAlpha_of_mem_endings, splitUnit_eq]
  cases endings.findSome? (frontOf? back) <;> rfl

/-- Without its unit a text is a leading part of it. -/
theorem splitUnit_isPrefix (cs : List Char) : (splitUnit cs).1 <+: cs := by
  rw [splitUnit_eq]
  cases found : endings.findSome? (frontOf? cs) with
  | none => exact List.prefix_refl cs
  | some r =>
    obtain ⟨e, -, here⟩ := List.exists_of_findSome?_eq_some found
    obtain ⟨rest, dropped, rfl⟩ := Option.map_eq_some_iff.1 here
    rw [dropSuffix?] at dropped
    split at dropped
    · cases dropped
      exact List.take_prefix _ cs
    · cases dropped

/-! ## Numbers in a layout -/

theorem spelling_spec : ∀ s ∈ spellings, trim s.1.toList = s.1.toList ∧ (splitUnit s.1.toList).1 = [] ∧
    (splitUnit s.1.toList).2.decimals = s.2 := by decide

namespace Layout

variable (l : Layout)

theorem blank_before : ∀ c ∈ l.before, isBlank c = true := fun c mem => l.blank c (by simp [mem])

theorem blank_between : ∀ c ∈ l.between, isBlank c = true := fun c mem => l.blank c (by simp [mem])

theorem blank_after : ∀ c ∈ l.after, isBlank c = true := fun c mem => l.blank c (by simp [mem])

/-- In lower case only the unit and the number differ. -/
theorem map_toLower_text (number : List Char) : (l.text number).toList.map Char.toLower =
    l.before ++ number.map Char.toLower ++ l.between ++ l.unit.map Char.toLower ++ l.after := by
  have same {cs : List Char} (blank : ∀ c ∈ cs, isBlank c = true) : cs.map Char.toLower = cs :=
    map_toLower_of_plain fun c mem => not_isAlpha_of_isBlank (blank c mem)
  rw [text, String.toList_ofList]
  simp only [List.map_append]
  rw [same l.blank_before, same l.blank_between, same l.blank_after]

/-- The unit of the layout is found behind a number without letters. -/
theorem splitUnit_text {number : List Char} (plain : ∀ c ∈ number, c.isAlpha = false) (trimmed : IsTrim number) :
    ∃ rest unit, (∀ c ∈ rest, isBlank c = true) ∧ unit.decimals = l.places ∧
      splitUnit (trim ((l.text number).toList.map Char.toLower)) = (number ++ rest, unit) := by
  obtain ⟨tight, noRest, same⟩ := spelling_spec _ l.spelled
  rw [String.toList_ofList] at tight noRest same
  rw [map_toLower_text, map_toLower_of_plain plain]
  generalize l.unit.map Char.toLower = unit at *
  -- the blanks behind the number go along with those around the text if the unit or the number is missing
  have found {rest : List Char} (blank : ∀ c ∈ rest, isBlank c = true)
      (left : trim (l.before ++ number ++ l.between ++ unit ++ l.after) = number ++ rest ++ unit) :
      ∃ rest unit', (∀ c ∈ rest, isBlank c = true) ∧ unit'.decimals = l.places ∧
        splitUnit (trim (l.before ++ number ++ l.between ++ unit ++ l.after)) = (number ++ rest, unit') := by
    have last : ∀ c, (number ++ rest).getLast? = some c → c.isAlpha = false := by
      intro c here
      rcases List.mem_append.1 (List.mem_of_getLast? here) with mem | mem
      · exact plain c mem
      · exact not_isAlpha_of_isBlank (blank c mem)
    refine ⟨rest, (splitUnit unit).2, blank, same, ?_⟩
    rw [left, splitUnit_append last, noRest, List.append_nil]
  by_cases none : unit = []
  · refine found (List.forall_mem_nil _) ?_
    have around := trim_surround l.blank_before trimmed (List.forall_mem_append.2 ⟨l.blank_between, l.blank_after⟩)
    simpa [none] using around
  · by_cases missing : number = []
    · refine found (List.forall_mem_nil _) ?_
      have around := trim_surround (List.forall_mem_append.2 ⟨l.blank_before, l.blank_between⟩)
        (trim_eq_self_iff.1 tight) l.blank_after
      simpa [missing] using around
    · refine found l.blank_between ?_
      have around := trim_surround l.blank_before
        (trimmed.join l.between (trim_eq_self_iff.1 tight) missing none) l.blank_after
      simpa using around

end Layout

/-! ## Reading a layout -/

/-- A number without letters, blanks or a sign is read as it stands, in the unit of the layout. -/
theorem read_of_plain (l : Layout) {number : List Char} (plain : ∀ c ∈ number, c.isAlpha = false)
    (trimmed : IsTrim number) (filled : number ≠ []) (unsigned : number.head? ≠ some '-') :
    read (l.text number) = (scaled l.places number).bind fit := by
  obtain ⟨rest, unit, blank, places, split⟩ := l.splitUnit_text plain trimmed
  rw [read, split]
  dsimp only
  rw [trim_append_blanks trimmed blank, places]
  split
  · exact absurd rfl filled
  · exact absurd rfl unsigned
  · rfl

/-- The characters of a numeral are no letters, blanks or signs. -/
theorem Numeral.mem_chars {n : Numeral} {c : Char} (mem : c ∈ n.chars) :
    c.isAlpha = false ∧ isBlank c = false ∧ c ≠ '-' := by
  have digit : ∀ d : Fin 10, (Nat.digitChar d.val).isAlpha = false ∧ isBlank (Nat.digitChar d.val) = false ∧
      Nat.digitChar d.val ≠ '-' := by decide
  have row {ds : List (Fin 10)} (mem : c ∈ digits ds) : c.isAlpha = false ∧ isBlank c = false ∧ c ≠ '-' := by
    obtain ⟨d, -, rfl⟩ := List.mem_map.1 mem
    exact digit d
  rw [chars] at mem
  split at mem
  · exact row mem
  · rcases List.mem_append.1 mem with mem | mem
    · exact row mem
    · rcases List.mem_cons.1 mem with rfl | mem
      · decide
      · exact row mem

/-- **A numeral is read as its worth if that fits, and not at all if not.** -/
theorem read_text (l : Layout) {n : Numeral} (filled : n.chars ≠ []) :
    read (l.text n.chars) = fit (n.worth l.places) := by
  have trimmed : IsTrim n.chars :=
    ⟨fun c first => (Numeral.mem_chars (List.mem_of_head? first)).2.1,
      fun c last => (Numeral.mem_chars (List.mem_of_getLast? last)).2.1⟩
  have unsigned : n.chars.head? ≠ some '-' := fun first => (Numeral.mem_chars (List.mem_of_head? first)).2.2 rfl
  rw [read_of_plain l (fun c mem => (Numeral.mem_chars mem).1) trimmed filled unsigned, scaled_chars]
  rfl

theorem parse?_of_nil (l : Layout) : parse? (l.text []) = none := by
  obtain ⟨rest, unit, blank, -, split⟩ := l.splitUnit_text (List.forall_mem_nil _) isTrim_nil
  rw [parse?, read, split]
  dsimp only
  rw [trim_append_blanks isTrim_nil blank]
  rfl

/-- A text that starts with a sign is no amount, whatever stands behind the sign. -/
theorem parse?_of_sign {s : String} {cs : List Char} (signed : trim (s.toList.map Char.toLower) = '-' :: cs) :
    parse? s = none := by
  rw [parse?, read, signed]
  have front := splitUnit_isPrefix ('-' :: cs)
  generalize splitUnit ('-' :: cs) = found at front ⊢
  obtain ⟨number, unit⟩ := found
  dsimp only at front ⊢
  -- without its unit the text is empty or starts with the sign
  cases number with
  | nil => rfl
  | cons c rest =>
    obtain ⟨rfl, -⟩ := List.cons_prefix_cons.1 front
    obtain ⟨more, trimmed⟩ := trim_of_sharp (List.forall_mem_nil _) (c := '-') (by decide) rest
    rw [List.nil_append] at trimmed
    rw [trimmed]
    rfl

theorem parse?_of_negative (l : Layout) (rest : List Char) : parse? (l.text ('-' :: rest)) = none := by
  obtain ⟨tail, trimmed⟩ := trim_of_sharp l.blank_before (c := '-') (by decide)
    (rest.map Char.toLower ++ l.between ++ l.unit.map Char.toLower ++ l.after)
  have signed : trim ((l.text ('-' :: rest)).toList.map Char.toLower) = '-' :: tail := by
    rw [l.map_toLower_text, ← trimmed]
    simp
  exact parse?_of_sign signed

/-- **An amount is read as exactly its value, rounded down to whole wei, if that fits 256 bits**: in every layout, with
any number of leading zeros and of digits behind the point. Without a number, or with a negative one, nothing is
read. -/
theorem amounts_exact (l : Layout) :
    (∀ n : Numeral, n.whole ≠ [] → n.worth l.places < 2 ^ 256 → parse? (l.text n.chars) = some (n.worth l.places)) ∧
      ∀ number, number = [] ∨ number.head? = some '-' → parse? (l.text number) = none := by
  refine ⟨fun n filled fits => ?worth, fun number nothing => ?nothing⟩
  case worth =>
    have written : n.chars ≠ [] := by
      intro none
      rw [Numeral.chars] at none
      split at none <;> simp [digits, filled] at none
    have small : n.worth l.places ≤ word256Max := Nat.le_of_lt_succ fits
    rw [parse?, read_text l written, fit, if_pos small]
    rfl
  case nothing =>
    rcases nothing with rfl | signed
    · exact parse?_of_nil l
    · obtain ⟨rest, rfl⟩ := List.head?_eq_some_iff.1 signed
      exact parse?_of_negative l rest

/-- Leading zeros, a fraction that is too fine, and blanks and capitals around the unit. -/
example : parse? " 007.0000000019\tGWei " = some 7000000001 := by decide

/-! ## Amounts that do not fit -/

/-- A numeral that is written with nothing is worth nothing. -/
theorem Numeral.worth_of_nil {n : Numeral} (h : n.chars = []) (places : Nat) : n.worth places = 0 := by
  obtain ⟨whole, fraction⟩ := n
  cases fraction with
  | none =>
    cases List.map_eq_nil_iff.1 h
    rw [worth_eq]
    simp [natural, decimals]
  | some ds => simp [chars] at h

/-- An amount that does not fit is not read. -/
theorem parse?_of_overflow (l : Layout) {n : Numeral} (big : 2 ^ 256 ≤ n.worth l.places) :
    parse? (l.text n.chars) = none := by
  have written : n.chars ≠ [] := by
    intro none
    rw [Numeral.worth_of_nil none] at big
    omega
  have large : ¬ n.worth l.places ≤ word256Max := Nat.not_le_of_lt big
  rw [parse?, read_text l written, fit, if_neg large]
  rfl

end Wei

namespace Settings

variable {s : Settings}

theorem scenarioNamed_transfer {name : String} (h : Text.lower (Text.strip name) = "eoatx") :
    s.scenarioNamed name = s.transferScenario := by
  rw [scenarioNamed, h]
  rfl

/-- A value that cannot be read makes no scenario. -/
theorem transferScenario_of_unread (h : Wei.parse? s.transferValue = none) : ∃ fault,
    s.transferScenario = .error (.config fault) := by
  rw [transferScenario, h]
  cases present s.transferTarget with
  | none => exact ⟨_, rfl⟩
  | some raw =>
    dsimp only
    cases Address.read (Text.strip raw) with
    | error fault => exact ⟨_, rfl⟩
    | ok target => exact ⟨_, rfl⟩

/-- Only the value is at fault where another value makes a scenario. -/
theorem transferScenario_of_other {text : String} {scenario : Scenario} (h : s.transferScenario = .ok scenario)
    (unread : Wei.parse? text = none) :
    ({ s with transferValue := text } : Settings).transferScenario = .error (.config (.badTransferValue text)) := by
  rw [transferScenario] at h ⊢
  dsimp only
  rw [unread]
  cases target : present s.transferTarget with
  | none => rfl
  | some raw =>
    rw [target] at h
    dsimp only at h ⊢
    cases read : Address.read (Text.strip raw) with
    | error fault =>
      rw [read] at h
      cases h
    | ok target => rfl

end Settings

namespace Wei

/-- **No amount wraps around.** A numeral worth `2 ^ 256` wei or more is not read, in any layout;
settings with such a first transfer or least balance are not valid, and are refused for that text if it is the only
thing wrong with them; and so it is with the value of the scenario of transfers. -/
theorem overflow_refused (l : Layout) {n : Numeral} (big : 2 ^ 256 ≤ n.worth l.places) :
    let text := l.text n.chars
    parse? text = none ∧
      (∀ s : Settings, s.walletPrefund = text ∨ s.walletMinimum = text → s.validate ≠ .ok ()) ∧
      (∀ s : Settings, s.validate = .ok () →
        ({ s with walletPrefund := text } : Settings).validate = .error (.config (.badPrefund text)) ∧
        ({ s with walletMinimum := text } : Settings).validate = .error (.config (.badMinimum text))) ∧
      (∀ (s : Settings) (name : String), Text.lower (Text.strip name) = "eoatx" →
        (s.transferValue = text → ∃ fault, s.scenarioNamed name = .error (.config fault)) ∧
        ∀ scenario, s.scenarioNamed name = .ok scenario →
          ({ s with transferValue := text } : Settings).scenarioNamed name =
            .error (.config (.badTransferValue text))) := by
  intro text
  have unread : parse? text = none := parse?_of_overflow l big
  refine ⟨unread, fun s chosen valid => ?invalid, fun s valid => ?refused, fun s name named => ?scenario⟩
  case invalid =>
    obtain ⟨-, ⟨_, first⟩, ⟨_, least⟩, -⟩ := Settings.validate_eq_ok_iff.1 valid
    rcases chosen with same | same
    · rw [same, unread] at first
      cases first
    · rw [same, unread] at least
      cases least
  case refused =>
    obtain ⟨introduced, ⟨_, first⟩, -, -⟩ := Settings.validate_eq_ok_iff.1 valid
    have with_prefund : ({ s with walletPrefund := text } : Settings).Introduced :=
      ⟨introduced.hosts, introduced.key, introduced.rollup⟩
    have with_minimum : ({ s with walletMinimum := text } : Settings).Introduced :=
      ⟨introduced.hosts, introduced.key, introduced.rollup⟩
    exact ⟨Settings.validate_of_bad_prefund with_prefund unread,
      Settings.validate_of_bad_minimum with_minimum first unread⟩
  case scenario =>
    constructor
    · intro same
      rw [Settings.scenarioNamed_transfer named]
      exact Settings.transferScenario_of_unread (same ▸ unread)
    · intro scenario made
      rw [Settings.scenarioNamed_transfer named] at made ⊢
      exact Settings.transferScenario_of_other made unread

/-- Valid settings are refused when a transfer of `10 ^ 60` ether is asked for. -/
theorem overflow_refused_sixty_zeros :
    let l : Layout := ⟨[], [' '], "Ether".toList, [], 18, List.all_eq_true.1 (by decide), by decide⟩
    let n : Numeral := ⟨1 :: List.replicate 60 0, none⟩
    let s : Settings := { Settings.standard with rpcHosts := ["http://node"], walletKey := "1", count := 1 }
    2 ^ 256 ≤ n.worth l.places ∧ s.validate = .ok () ∧
      ({ s with walletPrefund := l.text n.chars } : Settings).validate =
        .error (.config (.badPrefund (l.text n.chars))) := by
  intro l n s
  have big : 2 ^ 256 ≤ n.worth l.places := by
    rw [Numeral.worth_eq]
    decide
  have valid : s.validate = .ok () := by decide
  exact ⟨big, valid, ((overflow_refused l big).2.2.1 s valid).1⟩

end Wei

end TxLoad
