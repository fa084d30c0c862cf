import TxLoad.Proofs.Settings.Arguments
import TxLoad.Settings.Layers
import Mathlib.Data.List.Induction

/-!
# What the sources say of a setting

The name of an entry is that of a setting, or leads into the value of one. Either way it concerns this setting alone.

- What a layer makes of a value, it makes of the value that the layers below it have under this name
  (`Layer.lookup_join_concat`), and what it says of other settings does not matter (`Layer.lookup_join_about`);
- where no entry leads into the value of a setting, what a layer has replaces what is below
  (`Layer.Replaces.overlay_eq`);
- the environment has what the last variable says that names a setting (`Layer.value?_ofEnvironment`);
- a file of variables adds those that are not set yet, each with the value that it has first (`EnvFile.extend_adds`),
  and it is the nearest one that counts (`Files.nearest?_eq_some_iff`).
-/

namespace TxLoad

/-! ## Entries by name -/

namespace Sourced

variable {name other : String} (f : Sourced → Sourced)

@[simp] theorem lookup_change_self (entries : List (String × Sourced)) :
    lookup (change name f entries) name = some (f ((lookup entries name).getD nothing)) := by
  induction entries with
  | nil => simp [change, lookup]
  | cons e entries ih =>
    unfold lookup at ih ⊢
    by_cases same : e.1 = name <;> simp_all [change]

/-- What stands under another name is left alone. -/
@[simp] theorem lookup_change_of_ne (apart : name ≠ other) (entries : List (String × Sourced)) :
    lookup (change name f entries) other = lookup entries other := by
  induction entries with
  | nil => simp [change, lookup, apart]
  | cons e entries ih =>
    unfold lookup at ih ⊢
    by_cases same : e.1 = name
    · simp [change, same, apart]
    · by_cases found : e.1 = other <;> simp_all [change]

theorem put_ofValue {origin : String} {v : Value} (flat : ∀ entries, v ≠ .table entries) (old : Sourced) :
    put (.ofValue origin v) old = .ofValue origin v := by
  cases v with
  | table entries => exact absurd rfl (flat entries)
  | _ => simp [ofValue, put]

end Sourced

theorem find?_reverse_concat {α : Type} (p : α → Bool) (xs : List α) (x : α) :
    (xs ++ [x]).reverse.find? p = if p x then some x else xs.reverse.find? p := by
  rw [List.reverse_append, List.reverse_singleton, List.singleton_append, List.find?_cons]
  cases p x <;> rfl

theorem Value.lookup_concat (entries : List (String × Value)) (e : String × Value) (name : String) :
    lookup (entries ++ [e]) name = if e.1 = name then some e.2 else lookup entries name := by
  unfold lookup
  rw [find?_reverse_concat]
  by_cases same : e.1 = name <;> simp [same]

/-! ## Layers -/

namespace Layer

/-- What an entry makes of the value under a name. -/
def amend (origin name : String) (below : Option Sourced) (e : String × Value) : Option Sourced :=
  if (Place.ofName e.1).root = name then
    some (Sourced.update (Sourced.put (.ofValue origin e.2)) (Place.ofName e.1).steps (below.getD .nothing))
  else below

/-- What a layer makes of the value under a name. -/
def overlay (l : Layer) (name : String) (below : Option Sourced) : Option Sourced :=
  l.entries.foldl (amend l.origin name) below

/-- The entries of a layer that concern a setting. -/
def about (name : String) (l : Layer) : Layer :=
  { l with entries := l.entries.filter fun e => (Place.ofName e.1).root = name }

/-- The value that a layer has under a name, the last one of several. -/
def value? (l : Layer) (name : String) : Option Sourced := (Value.lookup l.entries name).map (.ofValue l.origin)

/-- **A layer replaces a setting**: no entry leads into its value, and none puts a table there. -/
structure Replaces (l : Layer) (name : String) : Prop where
  whole : ∀ e ∈ l.entries, (Place.ofName e.1).root = name → e.1 = name
  flat : ∀ v entries, (name, v) ∈ l.entries → v ≠ .table entries

variable {name : String}

/-- An entry changes the value under the name that it starts with. -/
theorem lookup_set (origin : String) (settings : List (String × Sourced)) (e : String × Value) :
    Sourced.lookup (set origin settings e) name = amend origin name (Sourced.lookup settings name) e := by
  unfold set amend
  split
  · next same => simp [← same]
  · next apart => simp [apart]

/-- The entries of a layer change the value under a name one after the other. -/
theorem lookup_foldl_set (origin : String) (entries : List (String × Value)) (settings : List (String × Sourced)) :
    Sourced.lookup (entries.foldl (set origin) settings) name =
      entries.foldl (amend origin name) (Sourced.lookup settings name) := by
  induction entries generalizing settings with
  | nil => rfl
  | cons e entries ih => rw [List.foldl_cons, List.foldl_cons, ih, lookup_set]

/-- **A layer is put over the ones below it name by name.** -/
theorem lookup_join_concat (layers : List Layer) (l : Layer) :
    Sourced.lookup (join (layers ++ [l])) name = l.overlay name (Sourced.lookup (join layers) name) := by
  unfold join
  rw [List.foldl_append, List.foldl_cons, List.foldl_nil, lookup_foldl_set]
  rfl

/-- What a layer says of other settings does not matter. -/
theorem overlay_about (l : Layer) (below : Option Sourced) :
    (l.about name).overlay name below = l.overlay name below := by
  unfold overlay about
  rw [List.foldl_filter]
  congr 1
  funext below e
  unfold amend
  by_cases concerned : (Place.ofName e.1).root = name <;> simp [concerned]

/-- **What layers say of other settings does not matter.** -/
theorem lookup_join_about (layers : List Layer) :
    Sourced.lookup (join (layers.map (about name))) name = Sourced.lookup (join layers) name := by
  induction layers using List.reverseRecOn with
  | nil => rfl
  | append_singleton layers l ih =>
    rw [List.map_append, List.map_singleton, lookup_join_concat, lookup_join_concat, ih, overlay_about]

/-- **What a layer has replaces what is below**, where it has something and does not lead into the value. -/
theorem Replaces.overlay_eq {l : Layer} (replaces : l.Replaces name) (root : Place.ofName name = ⟨name, []⟩)
    (below : Option Sourced) : l.overlay name below = (l.value? name).or below := by
  obtain ⟨entries, origin⟩ := l
  induction entries using List.reverseRecOn with
  | nil => rfl
  | append_singleton entries e ih =>
    obtain ⟨n, v⟩ := e
    have before : Layer.overlay ⟨entries, origin⟩ name below = (Layer.value? ⟨entries, origin⟩ name).or below :=
      ih ⟨fun e mem => replaces.whole e (List.mem_append_left _ mem),
        fun v es mem => replaces.flat v es (List.mem_append_left _ mem)⟩
    have last : Layer.overlay ⟨entries ++ [(n, v)], origin⟩ name below =
        amend origin name (Layer.overlay ⟨entries, origin⟩ name below) (n, v) := by
      simp [overlay]
    rw [last, before]
    unfold value?
    rw [Value.lookup_concat]
    by_cases same : n = name
    · have flat : ∀ entries, v ≠ .table entries := fun es =>
        replaces.flat v es (List.mem_append_right _ (by simp [same]))
      simp [amend, same, root, Sourced.update, Sourced.put_ofValue flat]
    · have apart : (Place.ofName n).root ≠ name := fun leads =>
        same (replaces.whole (n, v) (List.mem_append_right _ List.mem_cons_self) leads)
      simp [amend, same, apart]

end Layer

theorem Settings.ofName_of_mem : ∀ name ∈ names, Place.ofName name = ⟨name, []⟩ := by decide

/-! ## The environment -/

namespace EnvFile

/-- The value of the last variable that names a setting; the case of its name does not count. -/
def setting? (env : Environment) (name : String) : Option String :=
  (env.reverse.find? fun v => Text.lowercase v.1 = "loadgen_" ++ name).map (·.2)

/-- No variable leads into the value of a setting, as to an element of a list. -/
def Plain (env : Environment) (name : String) : Prop :=
  ∀ v ∈ env, ∀ rest, Text.lowercase v.1 = "loadgen_" ++ rest → (Place.ofName rest).root = name → rest = name

theorem setting?_concat (env : Environment) (v : String × String) (name : String) : setting? (env ++ [v]) name =
    if Text.lowercase v.1 = "loadgen_" ++ name then some v.2 else setting? env name := by
  unfold setting?
  rw [find?_reverse_concat]
  by_cases named : Text.lowercase v.1 = "loadgen_" ++ name <;> simp [named]

end EnvFile

namespace Layer

open EnvFile (Environment Plain setting? setting?_concat)

variable {env : Environment} {name : String}

theorem dropLeading?_variablePrefix {written : String} {rest : List Char} :
    Text.dropLeading? variablePrefix written.toList = some rest ↔ written = "loadgen_" ++ .ofList rest := by
  rw [CommandLine.dropLeading?_eq_some_iff, ← String.toList_inj, String.toList_append, String.toList_ofList (l := rest)]
  rfl

/-- The environment replaces a setting where no variable leads into its value. -/
theorem replaces_ofEnvironment (plain : Plain env name) : (ofEnvironment env).Replaces name where
  whole e mem root := by
    obtain ⟨v, inside, found⟩ := List.mem_filterMap.1 mem
    obtain ⟨rest, dropped, rfl⟩ := Option.map_eq_some_iff.1 found
    exact plain v inside _ (dropLeading?_variablePrefix.1 dropped) root
  flat v entries mem := by
    obtain ⟨w, -, found⟩ := List.mem_filterMap.1 mem
    obtain ⟨rest, -, same⟩ := Option.map_eq_some_iff.1 found
    cases same
    exact Value.noConfusion

/-- One more variable says one thing more if it names a setting. -/
theorem entries_ofEnvironment_concat (v : String × String) :
    (ofEnvironment (env ++ [v])).entries = (ofEnvironment env).entries ++
      (Text.dropLeading? variablePrefix (Text.lowercase v.1).toList).toList.map fun rest =>
        (.ofList rest, .text v.2) := by
  cases dropped : Text.dropLeading? variablePrefix (Text.lowercase v.1).toList <;>
    simp [ofEnvironment, List.filterMap_append, dropped]

/-- The last variable that names a setting is its last entry. -/
theorem lookup_ofEnvironment : Value.lookup (ofEnvironment env).entries name = (setting? env name).map .text := by
  induction env using List.reverseRecOn with
  | nil => rfl
  | append_singleton env v ih =>
    rw [setting?_concat, entries_ofEnvironment_concat]
    cases dropped : Text.dropLeading? variablePrefix (Text.lowercase v.1).toList with
    | none =>
      have foreign : Text.lowercase v.1 ≠ "loadgen_" ++ name := by
        intro named
        rw [← String.ofList_toList (s := name)] at named
        cases dropped.symm.trans (dropLeading?_variablePrefix.2 named)
      simpa [foreign] using ih
    | some rest =>
      rw [Option.toList_some, List.map_singleton, Value.lookup_concat, dropLeading?_variablePrefix.1 dropped, ih]
      simp only [String.append_right_inj]
      split <;> rfl

/-- **The environment says what the last variable says that names a setting.** -/
theorem value?_ofEnvironment : (ofEnvironment env).value? name =
    (setting? env name).map fun t => .leaf (some "the environment") (.text t) := by
  rw [value?, lookup_ofEnvironment, Option.map_map]
  rfl

end Layer

/-! ## Files of variables -/

namespace EnvFile

/-- The assignments that lines make, up to the first line that is bad; `env` is what is set when they are read. -/
def assigned (env : Environment) : List (Option (List Char)) → List (String × String)
  | [] => []
  | none :: _ => []
  | some line :: rest =>
    match line? (fun name => (get? env name).getD "") line with
    | none => []
    | some none => assigned env rest
    | some (some (name, v)) =>
      (name, v) :: assigned (if (get? env name).isSome then env else env ++ [(name, v)]) rest

/-- **What is added to an environment**: the variables that are stated but not set, each with its first value. -/
structure Adds (env stated added : Environment) : Prop where
  unset : ∀ v ∈ added, get? env v.1 = none
  once : (added.map (·.1)).Nodup
  first : ∀ name, get? env name = none → get? added name = get? stated name

variable {env : Environment}

theorem Adds.nothing : Adds env [] [] := ⟨by simp, by simp, fun _ _ => rfl⟩

theorem get?_cons (v : String × String) (name : String) :
    get? (v :: env) name = if v.1 = name then some v.2 else get? env name := by
  unfold get?
  rw [List.find?_cons]
  by_cases same : v.1 = name <;> simp [same]

theorem get?_concat (v : String × String) (name : String) :
    get? (env ++ [v]) name = (get? env name).or (if v.1 = name then some v.2 else none) := by
  unfold get?
  rw [List.find?_append, Option.map_or]
  by_cases same : v.1 = name <;> simp [same]

/-- A variable that is set is not added. -/
theorem Adds.of_set {stated added : Environment} (adds : Adds env stated added) {v : String × String}
    (set : get? env v.1 ≠ none) : Adds env (v :: stated) added where
  unset := adds.unset
  once := adds.once
  first name unset := by
    rw [get?_cons, if_neg, adds.first name unset]
    rintro rfl
    exact set unset

/-- A variable that is not set is added before all others. -/
theorem Adds.of_unset {stated added : Environment} {v : String × String} (adds : Adds (env ++ [v]) stated added)
    (unset : get? env v.1 = none) : Adds env (v :: stated) (v :: added) where
  unset w mem := by
    rcases List.mem_cons.1 mem with rfl | later
    · exact unset
    · have before := adds.unset w later
      rw [get?_concat] at before
      exact (Option.or_eq_none_iff.1 before).1
  once := by
    refine List.nodup_cons.2 ⟨fun mem => ?_, adds.once⟩
    obtain ⟨w, later, same⟩ := List.mem_map.1 mem
    have before := adds.unset w later
    rw [get?_concat, same, unset, if_pos rfl] at before
    cases before
  first name unset := by
    rw [get?_cons, get?_cons]
    split
    · rfl
    · next apart => exact adds.first name (by rw [get?_concat, unset, if_neg apart]; rfl)

/-- Lines add the variables that they state and that are not set. -/
theorem extendLines_adds (lines : List (Option (List Char))) {stated : Environment}
    (known : ∀ name, get? stated name ≠ none → get? env name ≠ none) :
    ∃ added, extendLines env stated lines = env ++ added ∧ Adds env (assigned env lines) added := by
  -- what is stated is set, so that what is set is all that counts for the lines that follow
  induction lines generalizing env stated with
  | nil => exact ⟨[], (List.append_nil _).symm, .nothing⟩
  | cons line lines ih =>
    cases line with
    | none => exact ⟨[], (List.append_nil _).symm, .nothing⟩
    | some line =>
      have value : (fun name => (get? env name).getD ((get? stated name).getD "")) =
          fun name => (get? env name).getD "" := by
        funext name
        cases set : get? env name with
        | some t => rfl
        | none =>
          cases said : get? stated name with
          | none => rfl
          | some t => exact absurd set (known name (by simp [said]))
      unfold extendLines assigned
      dsimp only
      rw [value]
      cases line? (fun name => (get? env name).getD "") line with
      | none => exact ⟨[], (List.append_nil _).symm, .nothing⟩
      | some assignment =>
        cases assignment with
        | none => exact ih known
        | some v =>
          cases set : get? env v.1 with
          | some t =>
            have known' : ∀ n, get? (v :: stated) n ≠ none → get? env n ≠ none := by
              intro n said
              rw [get?_cons] at said
              by_cases same : v.1 = n
              · simp [← same, set]
              · exact known n (by simpa [same] using said)
            obtain ⟨added, whole, adds⟩ := ih known'
            refine ⟨added, by simpa [set] using whole, ?_⟩
            simpa [set] using adds.of_set (v := v) (by simp [set])
          | none =>
            have known' : ∀ n, get? (v :: stated) n ≠ none → get? (env ++ [v]) n ≠ none := by
              intro n said
              rw [get?_cons] at said
              rw [get?_concat]
              by_cases same : v.1 = n
              · simp [same]
              · have before := known n (by simpa [same] using said)
                simpa [same] using before
            obtain ⟨added, whole, adds⟩ := ih known'
            refine ⟨v :: added, by simpa [set] using whole, ?_⟩
            simpa [set] using adds.of_unset set

/-- The assignments that a file makes, up to the first line that is bad. -/
def statements (env : Environment) (text : String) : List (String × String) :=
  assigned env (logicalLines [] .plain (physicalLines (withoutMark text.toList)))

/-- **A file adds the variables that it states and that are not set**, each with its first value. -/
theorem extend_adds (env : Environment) (text : String) :
    ∃ added, extend env text = env ++ added ∧ Adds env (statements env text) added :=
  extendLines_adds _ (by simp [get?])

end EnvFile

/-! ## The nearest file -/

namespace Files

variable {files : Files} {name : String} {steps : Nat} {found : String × String}

theorem length_le_depth {f : String × String} (mem : f ∈ files) : (pathParts f.1).length ≤ files.depth := by
  induction files with
  | nil => cases mem
  | cons g files ih =>
    rcases List.mem_cons.1 mem with rfl | mem
    · exact Nat.le_max_left ..
    · exact Nat.le_trans (ih mem) (Nat.le_max_right ..)

/-- There are no files above those that are there. -/
theorem lt_depth_of_above? (there : files.above? name steps = some found) : steps < files.depth := by
  obtain ⟨f, found, -⟩ := Option.map_eq_some_iff.1 there
  have parts : pathParts f.1 = List.replicate steps ".." ++ [name] := by simpa using List.find?_some found
  have deep := length_le_depth (List.mem_of_find?_eq_some found)
  rw [parts, List.length_append, List.length_replicate] at deep
  exact deep

/-- **The nearest file is the one above which no other is nearer.** -/
theorem nearest?_eq_some_iff : files.nearest? name = some found ↔
    ∃ steps, files.above? name steps = some found ∧ ∀ nearer < steps, files.above? name nearer = none := by
  rw [nearest?, List.findSome?_eq_some_iff]
  constructor
  · rintro ⟨before, steps, behind, all, there, missing⟩
    rw [List.range_eq_range', List.range'_eq_append_iff] at all
    obtain ⟨k, -, rfl, rest⟩ := all
    rw [Nat.mul_one, Nat.zero_add] at rest
    obtain ⟨rfl, -⟩ := List.range'_eq_cons_iff.1 rest.symm
    exact ⟨k, there, fun nearer lt => missing nearer (List.mem_range'_1.2 ⟨Nat.zero_le _, by omega⟩)⟩
  · rintro ⟨steps, there, missing⟩
    have lt := lt_depth_of_above? there
    refine ⟨List.range' 0 steps, steps, List.range' (steps + 1) (files.depth - (steps + 1)), ?_, there, ?_⟩
    · rw [List.range_eq_range', List.range'_eq_append_iff]
      have more : files.depth - steps = files.depth - (steps + 1) + 1 := by omega
      exact ⟨steps, Nat.le_of_lt lt, rfl, by rw [Nat.mul_one, Nat.zero_add, more, List.range'_succ]⟩
    · intro nearer mem
      exact missing nearer (by have := List.mem_range'_1.1 mem; omega)

/-- There is no nearest file where there is none at all. -/
theorem nearest?_eq_none_iff : files.nearest? name = none ↔ ∀ steps, files.above? name steps = none := by
  rw [nearest?, List.findSome?_eq_none_iff]
  constructor
  · intro missing steps
    refine Option.eq_none_iff_forall_ne_some.2 fun found there => ?_
    rw [missing steps (List.mem_range.2 (lt_depth_of_above? there))] at there
    cases there
  · exact fun missing steps _ => missing steps

end Files

end TxLoad
