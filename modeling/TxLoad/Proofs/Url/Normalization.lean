import TxLoad.Program
import TxLoad.Proofs.Text.Trimming
import Mathlib.Data.List.Infix

/-!
# Addresses that are normalised twice

The address of a relay is normalised where it is configured and once more where the relay is built.

- `bare` is what normalisation leaves of an address before it looks for a scheme;
- an address is normal if it is bare and names a scheme (`normalizeChars_eq_self_iff`): the scheme that is put in
  front of an address never makes up for what trimming it took away (`bare_scheme_ne`);
- **the second normalisation changes nothing exactly where something is left that does not end in a blank**
  (`normalize_normalize_iff`).
-/

namespace TxLoad.Url

open Text

/-- What is left of an address without blanks around it and slashes behind it. -/
def bare (cs : List Char) : List Char := dropWhileEnd (· = '/') (trim cs)

/-- Something is left of the address, and it does not end in a blank. -/
def IsSettled (s : String) : Prop := ∃ c, (bare s.toList).getLast? = some c ∧ isBlank c = false

/-- What stands in front of an address without a scheme. -/
def scheme : List Char := "http://".toList

/-- What tells that an address names a scheme. -/
def schemeMark : List Char := "://".toList

theorem normalizeChars_eq (cs : List Char) :
    normalizeChars cs = if contains schemeMark (bare cs) then bare cs else scheme ++ bare cs := rfl

/-! ## What is left -/

theorem bare_isPrefix (cs : List Char) : bare cs <+: trim cs := dropWhileEnd_isPrefix _

theorem head?_bare {cs : List Char} {c : Char} (first : (bare cs).head? = some c) : isBlank c = false := by
  obtain ⟨rest, split⟩ := bare_isPrefix cs
  refine (isTrim_trim cs).first c ?_
  rw [← split, List.head?_append, first]
  rfl

theorem getLast?_bare {cs : List Char} {c : Char} (last : (bare cs).getLast? = some c) : c ≠ '/' := by
  simpa using getLast?_dropWhileEnd last

/-- An address is bare if it is trimmed and ends in no slash. -/
theorem bare_eq_self_iff {cs : List Char} : bare cs = cs ↔ IsTrim cs ∧ ∀ c, cs.getLast? = some c → c ≠ '/' := by
  constructor
  · intro same
    have whole : trim cs = cs := by
      -- the trimmed text is no longer than the text, and what is left of it is all of the text
      have front : cs <+: trim cs := by
        have left := bare_isPrefix cs
        rwa [same] at left
      have short : (trim cs).length ≤ cs.length :=
        (dropWhileEnd_isPrefix _).length_le.trans (List.dropWhile_suffix _).length_le
      exact (front.eq_of_length_le short).symm
    exact ⟨trim_eq_self_iff.1 whole, fun c last => getLast?_bare (same ▸ last)⟩
  · rintro ⟨trimmed, last⟩
    rw [bare, trim_eq_self_iff.2 trimmed]
    exact dropWhileEnd_eq_self_iff.2 fun c here => by simpa using last c here

/-! ## What normalisation gives -/

theorem contains_normalizeChars (cs : List Char) : contains schemeMark (normalizeChars cs) = true := by
  rw [normalizeChars_eq]
  split
  · assumption
  · refine contains_iff_isInfix.2 (List.IsInfix.trans ?_ (List.prefix_append _ _).isInfix)
    exact contains_iff_isInfix.1 (by decide)

/-- A normalised address starts with no blank. -/
theorem head?_normalizeChars {cs : List Char} {c : Char} (first : (normalizeChars cs).head? = some c) :
    isBlank c = false := by
  rw [normalizeChars_eq] at first
  split at first
  · exact head?_bare first
  · cases first
    decide

/-- A normalised address ends as what is left, if anything is. -/
theorem getLast?_normalizeChars {cs : List Char} {c : Char} (last : (bare cs).getLast? = some c) :
    (normalizeChars cs).getLast? = some c := by
  rw [normalizeChars_eq]
  split
  · exact last
  · rw [List.getLast?_append, last]
    rfl

theorem normalizeChars_of_bare_nil {cs : List Char} (h : bare cs = []) : normalizeChars cs = scheme := by
  rw [normalizeChars_eq, h]
  decide

/-- With the scheme in front, what is left of a text is not the text. -/
theorem bare_scheme_ne {cs : List Char} (unnamed : contains schemeMark cs = false) : bare (scheme ++ cs) ≠ cs := by
  intro same
  have trimmed : bare (scheme ++ cs) <+: scheme ++ cs := by
    have start : trimStart (scheme ++ cs) = scheme ++ cs := rfl
    exact (bare_isPrefix _).trans (start ▸ dropWhileEnd_isPrefix _)
  -- a leading part of the scheme and the text that names no scheme ends within the scheme
  have short : cs <+: scheme := by
    rcases List.prefix_or_prefix_of_prefix (same ▸ trimmed) (List.prefix_append scheme cs) with inside | beyond
    · exact inside
    · have named : contains schemeMark cs = true :=
        contains_iff_isInfix.2 ((contains_iff_isInfix.1 (by decide)).trans beyond.isInfix)
      rw [named] at unnamed
      cases unnamed
  have all : ∀ part ∈ scheme.inits, bare (scheme ++ part) ≠ part := by decide
  exact all cs ((List.mem_inits cs scheme).2 short) same

/-- An address is normal if it is bare and names a scheme. -/
theorem normalizeChars_eq_self_iff {cs : List Char} :
    normalizeChars cs = cs ↔ bare cs = cs ∧ contains schemeMark cs = true := by
  constructor
  · intro same
    have named : contains schemeMark cs = true := same ▸ contains_normalizeChars cs
    rw [normalizeChars_eq] at same
    split at same
    · exact ⟨same, named⟩
    · next unnamed =>
      have again : bare (scheme ++ bare cs) = bare cs := by rw [same]
      exact absurd again (bare_scheme_ne (by simpa using unnamed))
  · rintro ⟨same, named⟩
    rw [normalizeChars_eq, same, if_pos named]

/-- The second normalisation changes nothing if what the first one left does not end in a blank. -/
theorem normalizeChars_normalizeChars_iff {cs : List Char} :
    normalizeChars (normalizeChars cs) = normalizeChars cs ↔ ∃ c, (bare cs).getLast? = some c ∧ isBlank c = false := by
  rw [normalizeChars_eq_self_iff, bare_eq_self_iff]
  cases last : (bare cs).getLast? with
  | none =>
    have nothing : normalizeChars cs = scheme := normalizeChars_of_bare_nil (List.getLast?_eq_none_iff.1 last)
    constructor
    · rintro ⟨⟨-, noSlash⟩, -⟩
      exact absurd rfl (noSlash '/' (by rw [nothing]; rfl))
    · rintro ⟨c, none, -⟩
      cases none
  | some c =>
    have ending := getLast?_normalizeChars last
    constructor
    · rintro ⟨⟨trimmed, -⟩, -⟩
      exact ⟨c, rfl, trimmed.last c ending⟩
    · rintro ⟨d, same, sharp⟩
      cases same
      refine ⟨⟨⟨fun d first => head?_normalizeChars first, fun d here => ?_⟩, fun d here => ?_⟩,
        contains_normalizeChars cs⟩
      · rw [ending] at here
        exact Option.some.inj here ▸ sharp
      · rw [ending] at here
        exact Option.some.inj here ▸ getLast?_bare last

/-! ## The address of a relay -/

theorem isSettled_iff {address : String} : normalize (normalize address) = normalize address ↔ IsSettled address := by
  rw [normalize, normalize, String.ofList_inj, String.toList_ofList]
  exact normalizeChars_normalizeChars_iff

/-- The path of a run with a relay, in terms of its address. -/
theorem path_of_relay {s : Settings} (h : s.sendViaRelay = true) :
    Program.path s = match host (normalize s.relayUrl) with
      | .ok _ => .ok (.relay ⟨normalize s.relayUrl, s.rollupId⟩)
      | .error fault => .error (.config (.badRelayAddress s.relayUrl fault)) := by
  rw [Program.path, if_pos h, Relay.ofAddress]
  cases host (normalize s.relayUrl) <;> rfl

/-- A run with a relay sends to the address that two normalisations give. -/
theorem url_of_path {s : Settings} {r : Relay} (h : s.sendViaRelay = true) (sent : Program.path s = .ok (.relay r)) :
    r.url = normalize s.relayUrl := by
  rw [path_of_relay h] at sent
  generalize host (normalize s.relayUrl) = outcome at sent
  cases outcome with
  | ok name => exact (Dispatch.Path.relay.inj (Except.ok.inj sent)) ▸ rfl
  | error fault => cases sent

/-- **The second normalisation of an address changes nothing exactly if the first one left something that does not end
in a blank.** A run with a relay at such an address sends to the address that one normalisation gives, or is refused
for what is wrong with that address; at any other address it never sends to what one normalisation gives. An address
of blanks and slashes alone names no host after the first normalisation, and another host after the second. -/
theorem normalize_normalize_iff (address : String) :
    (normalize (normalize address) = normalize address ↔ IsSettled address) ∧
      (∀ s : Settings, s.sendViaRelay = true → s.relayAddress = address →
        (IsSettled address → Program.path s = match host (normalize address) with
          | .ok _ => .ok (.relay ⟨normalize address, s.rollupId⟩)
          | .error fault => .error (.config (.badRelayAddress (normalize address) fault))) ∧
        (¬ IsSettled address → Program.path s ≠ .ok (.relay ⟨normalize address, s.rollupId⟩))) ∧
      (bare address.toList = [] →
        host (normalize address) = .error .emptyHost ∧ normalize (normalize address) = "http://http:") := by
  refine ⟨isSettled_iff, fun s relayed same => ⟨fun settled => ?settled, fun unsettled sent => ?unsettled⟩,
    fun nothing => ?nothing⟩
  case settled =>
    rw [path_of_relay relayed, Settings.relayUrl, same, isSettled_iff.2 settled]
  case unsettled =>
    have again := url_of_path relayed sent
    rw [Settings.relayUrl, same] at again
    exact unsettled (isSettled_iff.1 again.symm)
  case nothing =>
    have once : normalize address = "http://" := by rw [normalize, normalizeChars_of_bare_nil nothing]; rfl
    rw [once]
    decide

/-- An address with a slash behind a blank becomes settled with the second normalisation only. -/
example : normalize (normalize "node / ") = "http://node" ∧ normalize "node / " = "http://node " := by decide

end TxLoad.Url
