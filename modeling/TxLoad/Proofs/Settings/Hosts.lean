import TxLoad.Proofs.Settings.Reading
import TxLoad.Proofs.Url.Listing
import TxLoad.Settings.Strict
import Mathlib.Data.List.Forall2

/-!
# The ways to give hosts

Hosts come as a list of texts, as one text with separators in it, or on the command line. A list is taken text by text,
a text is cut at its separators, and a value on the command line is cut at its commas before it is cut at all
separators.

- Both dialects take a list for what its texts name (`Strict.hosts_list`, `Lenient.hosts_list`), and a text for what the
  texts that are joined in it name (`Strict.hosts_joined`, `Lenient.hosts_joined`);
- settings that are read have the hosts that the dialect takes (`Settings.rpcHosts_of_read`);
- accepted arguments give what their values name (`CommandLine.hosts?_of_parse`);
- **all ways give the same hosts** (`host_forms_agree`).
-/

namespace TxLoad

open Url (isSeparator named parseList)
open Text (Joined)

variable {xs : List String} {t : String}

/-! ## Lists and texts -/

/-- A list of texts is a list of texts to the strict dialect. -/
theorem Strict.mapM_text (xs : List String) : (xs.map Value.text).mapM Strict.text = .ok xs := by
  induction xs with
  | nil => rfl
  | cons x xs ih =>
    rw [List.map_cons, List.mapM_cons, ih]
    rfl

theorem Strict.hosts_list (xs : List String) : Strict.hosts (.list (xs.map .text)) = .ok (named xs) := by
  rw [Strict.hosts, Strict.mapM_text, ← Url.flatMap_parseList]
  rfl

theorem Strict.hosts_joined (h : Joined isSeparator xs t) : Strict.hosts (.text t) = .ok (named xs) := by
  rw [Strict.hosts, Url.parseList_joined h]

/-- A list of texts is a list of texts to the lenient dialect. -/
theorem Lenient.texts_eq {parts : List Sourced} (shapes : parts.map Sourced.shape = xs.map .text) (i : Nat) :
    Lenient.texts i parts = .ok xs := by
  induction parts generalizing xs i with
  | nil =>
    cases List.map_eq_nil_iff.1 shapes.symm
    rfl
  | cons part parts ih =>
    cases xs with
    | nil => cases shapes
    | cons x xs =>
      obtain ⟨first, rest⟩ := List.cons.inj shapes
      rw [Lenient.texts, ih rest, Lenient.text, first]
      rfl

theorem Lenient.hosts_list {parts : List Sourced} (shapes : parts.map Sourced.shape = xs.map .text)
    (origin : Option String) : Lenient.hosts (.list origin parts) = .ok (named xs) := by
  rw [Lenient.hosts, Lenient.texts_eq shapes, ← Url.flatMap_parseList]
  rfl

theorem Lenient.hosts_joined (h : Joined isSeparator xs t) (origin : Option String) :
    Lenient.hosts (.leaf origin (.text t)) = .ok (named xs) := by
  rw [Lenient.hosts, Url.parseList_joined h]

/-- **Settings that are read have the hosts that are taken.** -/
theorem Settings.rpcHosts_of_read {ν ε : Type} {d : Dialect ν ε} {get : String → Option ν} {s : Settings}
    (read : Settings.read d get = .ok s) {v : ν} (given : get "rpc_hosts" = some v) : d.hosts v = .ok s.rpcHosts := by
  have hosts := (read_eq_ok_iff.1 read).rpcHosts
  rwa [Comes, given] at hosts

/-! ## Arguments -/

namespace CommandLine

/-- Cutting a value at its commas first makes no difference. -/
theorem named_cut (v : String) : named (cut v) = parseList v := by
  have pieces : Joined isSeparator (cut v) (.ofList v.toList) :=
    (Text.joined_splitOnAny v.toList).mono fun c comma =>
      Url.isSeparator_iff.2 (List.mem_cons.2 (.inl (of_decide_eq_true comma)))
  rw [String.ofList_toList] at pieces
  exact (Url.parseList_joined pieces).symm

theorem named_flatMap_cut (values : List String) : named (values.flatMap cut) = named values := by
  induction values with
  | nil => rfl
  | cons v values ih =>
    rw [List.flatMap_cons, ← Url.flatMap_parseList, List.flatMap_append, Url.flatMap_parseList, Url.flatMap_parseList,
      ih, named_cut, ← Url.flatMap_parseList (v :: values), List.flatMap_cons, Url.flatMap_parseList]

/-- **Accepted arguments give what their values name**, if there are any. -/
theorem hosts?_of_parse {args : List String} {given : List (String × Given)} (read : parse args = .ok given) :
    hosts? given "rpchost" = if hostValues args = [] then none else some (named (hostValues args)) := by
  rw [hosts?, lookup_of_parse read]
  split
  · next raw found =>
    split at found
    · cases found
    · next filled =>
      cases found
      rw [if_neg filled, Url.flatMap_parseList, named_flatMap_cut]
  · next missing =>
    split at missing
    · next empty => rw [if_pos empty]
    · exact absurd rfl (missing _)

end CommandLine

/-- Texts that are joined in several values are named by all of them. -/
theorem Url.named_joined {groups : List (List String)} {values : List String}
    (joined : List.Forall₂ (Joined isSeparator) groups values) : named values = named groups.flatten := by
  induction joined with
  | nil => rfl
  | cons first _ ih =>
    rw [← Url.flatMap_parseList, List.flatMap_cons, Url.flatMap_parseList, ih, Url.parseList_joined first,
      List.flatten_cons, ← Url.flatMap_parseList, ← Url.flatMap_parseList, ← Url.flatMap_parseList,
      List.flatMap_append]

/-! ## All ways -/

/-- **All ways to give the texts `xs` as hosts give the hosts that they name.** -/
structure FormsAgree (xs : List String) : Prop where
  strictList : Strict.hosts (.list (xs.map .text)) = .ok (named xs)
  strictText : ∀ t, Joined isSeparator xs t → Strict.hosts (.text t) = .ok (named xs)
  lenientList : ∀ origin parts, parts.map Sourced.shape = xs.map .text →
    Lenient.hosts (.list origin parts) = .ok (named xs)
  lenientText : ∀ origin t, Joined isSeparator xs t → Lenient.hosts (.leaf origin (.text t)) = .ok (named xs)
  /-- The texts may be joined in several values, some in the first one, some in the next one, and so on. -/
  arguments : ∀ groups args given base, groups.flatten = xs →
    List.Forall₂ (Joined isSeparator) groups (CommandLine.hostValues args) → CommandLine.hostValues args ≠ [] →
    CommandLine.parse args = .ok given → (CommandLine.apply given base).rpcHosts = named xs
  schemes : ∀ host ∈ named xs, Url.schemeMark <:+: host.toList

/-- All ways to give the texts agree. -/
theorem formsAgree (xs : List String) : FormsAgree xs where
  strictList := Strict.hosts_list xs
  strictText _ joined := Strict.hosts_joined joined
  lenientList origin _ shapes := Lenient.hosts_list shapes origin
  lenientText origin _ joined := Lenient.hosts_joined joined origin
  arguments := by
    rintro groups args given base rfl joined filled read
    have hosts := CommandLine.hosts?_of_parse read
    rw [if_neg filled, Url.named_joined joined] at hosts
    rw [CommandLine.apply, hosts]
    rfl
  schemes _ mem := Url.isInfix_of_mem_named mem

/-- **All ways to give hosts agree.**

- Both sides of a separator name their hosts on their own, and a text without separators names one, unless it is blank.
- A list, a text that joins its texts, and accepted arguments whose values do, give what the texts name: their pieces
  that are not blank, in order, each of them normalised.
- Settings have the hosts that their dialect takes.
- Any values can be spelled by arguments; arguments that spell values are accepted, and these are their values. -/
theorem host_forms_agree :
    (∀ a b : String, ∀ c ∈ [',', ' ', '\n', '\t'],
      parseList (a ++ String.singleton c ++ b) = parseList a ++ parseList b) ∧
    (∀ a : String, (∀ c ∈ a.toList, isSeparator c = false) →
      parseList a = if (Text.strip a).isEmpty then [] else [Url.normalize a]) ∧
    (∀ xs, FormsAgree xs) ∧
    (∀ {ν ε : Type} (d : Dialect ν ε) get v s, get "rpc_hosts" = some v → Settings.read d get = .ok s →
      d.hosts v = .ok s.rpcHosts) ∧
    (∀ values, ∃ args, CommandLine.Spelled values args) ∧
    ∀ values args, CommandLine.Spelled values args →
      CommandLine.hostValues args = values ∧ ∃ given, CommandLine.parse args = .ok given := by
  refine ⟨?split, fun _ => Url.parseList_of_plain, formsAgree, ?settings, CommandLine.Spelled.exists, ?spelled⟩
  case split =>
    intro a b c mem
    exact Url.parseList_append (Url.isSeparator_iff.2 mem) a b
  case settings =>
    intro ν ε d get v s given read
    exact Settings.rpcHosts_of_read read given
  case spelled =>
    intro values args spelled
    exact ⟨spelled.hostValues_eq, spelled.parse⟩

/-- Two hosts, nothing and a third host, as a list, as a text, and in two values. -/
theorem host_forms_agree_three :
    Strict.hosts (.list [.text "a, b", .text "", .text "http://c"]) = .ok ["http://a", "http://b", "http://c"] ∧
    Strict.hosts (.text "a, b\n\thttp://c") = .ok ["http://a", "http://b", "http://c"] ∧
    ∃ given, CommandLine.parse ["--rpchost=a, b,", "--rpchost", "http://c"] = .ok given ∧
      (CommandLine.apply given .standard).rpcHosts = ["http://a", "http://b", "http://c"] := by
  obtain ⟨-, -, agree, -, -, accepted⟩ := host_forms_agree
  have all : named ["a, b", "", "http://c"] = ["http://a", "http://b", "http://c"] := by decide
  have forms := agree ["a, b", "", "http://c"]
  have first : Joined isSeparator ["a, b", ""] "a, b," := .more "a, b" (c := ',') (by decide) (.one "")
  have whole : Joined isSeparator ["a, b", "", "http://c"] "a, b\n\thttp://c" :=
    .more "a, b" (c := '\n') (by decide) (.more "" (c := '\t') (by decide) (.one "http://c"))
  have spelled : CommandLine.Spelled ["a, b,", "http://c"] ["--rpchost=a, b,", "--rpchost", "http://c"] :=
    .tied "a, b," (.apart (by rintro c cs ⟨⟩) .nil)
  obtain ⟨values, given, read⟩ := accepted _ _ spelled
  have joined : List.Forall₂ (Joined isSeparator) [["a, b", ""], ["http://c"]]
      (CommandLine.hostValues ["--rpchost=a, b,", "--rpchost", "http://c"]) := by
    rw [values]
    exact .cons first (.cons (.one _) .nil)
  rw [← all]
  exact ⟨forms.strictList, forms.strictText _ whole, given, read,
    forms.arguments _ _ given .standard rfl joined (by rw [values]; exact List.cons_ne_nil _ _) read⟩

end TxLoad
