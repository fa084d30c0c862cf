import TxLoad.Settings.CommandLine
import Mathlib.Data.List.TakeDrop

/-!
# Hosts on the command line

Hosts may be given more than once. A value is attached to its flag or stands behind it, and it is read only when the
next flag or the end comes.

- `hostValues` are the values of the flag for hosts, from the arguments alone;
- `State.Gathers` says which hosts are held in a state or wait in it to be read; no flag loses or adds one but the flag
  for hosts (`State.Gathers.long`, `State.Gathers.short`);
- **accepted arguments hold the hosts of all their values, in order** (`lookup_of_parse`);
- arguments that are nothing but `Spelled` hosts are accepted (`Spelled.parse`).
-/

namespace TxLoad

theorem exists_of_bind {ε α β : Type} {x : Except ε α} {g : α → Except ε β} {b : β} (h : x >>= g = .ok b) :
    ∃ a, x = .ok a ∧ g a = .ok b := by
  cases x with
  | error e => cases h
  | ok a => exact ⟨a, rfl, h⟩

namespace CommandLine

open Text (splitOnAny)

/-! ## The flag for hosts -/

/-- The flag for hosts. -/
def hostFlag : Flag := ⟨"rpchost", none, .hosts⟩

theorem eq_hostFlag_of_kind : ∀ f ∈ Flag.all, f.kind = .hosts → f = hostFlag := by decide

theorem kind_of_name : ∀ f ∈ Flag.all, f.name = hostFlag.name → f.kind = .hosts := by decide

theorem kind_ne_of_short : ∀ f ∈ Flag.all, f.short ≠ none → f.kind ≠ .hosts := by decide

/-- A value of the flag, cut at its commas. -/
def cut (v : String) : List String := (splitOnAny (· = ',') v.toList).map .ofList

/-- The hosts that are held, if any are, and those of one more value. -/
def gather (held : Option (List String)) (v : String) : Option (List String) := some (held.getD [] ++ cut v)

/-! ## Given flags -/

section Lookup

variable {given : List (String × Given)} {name : String}

theorem lookup_append (given : List (String × Given)) (name : String) (added : String × Given) :
    lookup (given ++ [added]) name = (lookup given name).or (if added.1 = name then some added.2 else none) := by
  unfold lookup
  rw [List.find?_append, Option.map_or]
  by_cases same : added.1 = name <;> simp [same]

/-- A flag that is replaced is found if it was there. -/
theorem lookup_replace (value : Given) :
    lookup (given.map fun g => if g.1 = name then (g.1, value) else g) name =
      (lookup given name).map fun _ => value := by
  induction given with
  | nil => rfl
  | cons g given ih =>
    unfold lookup at ih ⊢
    by_cases same : g.1 = name
    · simp [same]
    · simpa [same] using ih

end Lookup

/-! ## The values in the arguments -/

/-- The value that an argument attaches to the flag for hosts. -/
def attached? (arg : String) : Option String := (Text.dropLeading? "--rpchost=".toList arg.toList).map .ofList

/-- The values of the flag for hosts; `awaited` says that the flag was the last argument. -/
def valuesFrom : Bool → List String → List String
  | _, [] => []
  | true, v :: args => v :: valuesFrom false args
  | false, arg :: args =>
    if arg = "--rpchost" then valuesFrom true args else (attached? arg).toList ++ valuesFrom false args

/-- The values of the flag for hosts. -/
def hostValues (args : List String) : List String := valuesFrom false args

namespace State

variable {s s' : State} {held : Option (List String)} {f : Flag}

/-! ## Flags that are read -/

/-- The hosts that the flags hold. -/
def Holds (s : State) (held : Option (List String)) : Prop := lookup s.given hostFlag.name = held.map .hosts

/-- One more value adds its hosts. -/
theorem Holds.add_host (h : s.Holds held) {v : String} (read : s.add hostFlag v = .ok s') :
    s'.Holds (gather held v) ∧ s'.pending = s.pending := by
  have found : (s.given.find? (·.1 = hostFlag.name)).map (·.2) = held.map .hosts := h
  unfold State.add at read
  cases first : s.given.find? (·.1 = hostFlag.name) with
  | none =>
    rw [first] at found read
    cases held with
    | some _ => cases found
    | none =>
      cases read
      refine ⟨?_, rfl⟩
      rw [Holds, lookup_append, h]
      rfl
  | some g =>
    rw [first] at found read
    obtain ⟨name, value⟩ := g
    cases held with
    | none => cases found
    | some before =>
      cases found
      cases read
      refine ⟨?_, rfl⟩
      rw [Holds, lookup_replace, h]
      rfl

/-- Any other flag leaves the hosts alone. -/
theorem Holds.add_other (h : s.Holds held) (known : f ∈ Flag.all) (other : f.kind ≠ .hosts) {v : String}
    (read : s.add f v = .ok s') : s'.Holds held ∧ s'.pending = s.pending := by
  have name : f.name ≠ hostFlag.name := fun same => other (kind_of_name f known same)
  unfold State.add at read
  split at read
  · cases read
  · cases read
  · next hosts => exact absurd hosts other
  · dsimp only at read
    split at read
    · cases read
    · obtain ⟨value, -, rest⟩ := exists_of_bind read
      cases rest
      refine ⟨?_, rfl⟩
      rw [Holds, lookup_append, if_neg name, h, Option.or_none]

/-! ## Values that wait -/

/-- The value that waits to be read, if it is one of hosts. -/
def waiting (s : State) : List String :=
  match s.pending with
  | some (f, some v) => if f.kind = .hosts then [v] else []
  | _ => []

/-- The flag for hosts still waits for its value. -/
def awaits (s : State) : Bool :=
  match s.pending with
  | some (f, none) => f.kind = .hosts
  | _ => false

/-- **The hosts that have come**: those that the flags hold, and those of the value that waits. -/
structure Gathers (s : State) (held : Option (List String)) : Prop where
  known : ∀ f v, s.pending = some (f, v) → f ∈ Flag.all
  held : ∃ before, s.Holds before ∧ s.waiting.foldl gather before = held

theorem Holds.gathers (h : s.Holds held) (calm : s.pending = none) : s.Gathers held where
  known f v waits := by
    rw [calm] at waits
    cases waits
  held := ⟨held, h, by rw [waiting, calm]; rfl⟩

/-- When what waits is read, all that has come is held. -/
theorem Gathers.settle (h : s.Gathers held) (read : s.settle = .ok s') :
    s'.Holds held ∧ s'.pending = none ∧ s.awaits = false := by
  obtain ⟨known, before, holds, gathered⟩ := h
  obtain ⟨given, pending⟩ := s
  match pending, read with
  | none, read =>
    cases read
    cases gathered
    exact ⟨holds, rfl, rfl⟩
  | some (f, none), read => cases read
  | some (f, some v), read =>
    have mem : f ∈ Flag.all := known f _ rfl
    have holds' : State.Holds ⟨given, none⟩ before := holds
    by_cases hosts : f.kind = .hosts
    · cases eq_hostFlag_of_kind f mem hosts
      cases gathered
      obtain ⟨more, calm⟩ := holds'.add_host read
      exact ⟨more, calm, rfl⟩
    · obtain ⟨same, calm⟩ := holds'.add_other mem hosts read
      simp only [waiting, hosts, if_false] at gathered
      cases gathered
      exact ⟨same, calm, rfl⟩

/-- The flag for hosts brings the value that is attached to it, or waits for one. -/
theorem Gathers.flag_host (h : s.Gathers held) {attached : Option String}
    (read : s.flag hostFlag attached = .ok s') :
    s.awaits = false ∧ s'.Gathers (attached.toList.foldl gather held) ∧ s'.awaits = attached.isNone := by
  rw [State.flag, if_pos (by decide)] at read
  obtain ⟨before, settled, rest⟩ := exists_of_bind read
  obtain ⟨holds, calm, free⟩ := h.settle settled
  refine ⟨free, ?_⟩
  cases attached with
  | none =>
    cases rest
    exact ⟨⟨by simpa using (by decide : hostFlag ∈ Flag.all), held, holds, rfl⟩, rfl⟩
  | some v =>
    obtain ⟨more, calm'⟩ := holds.add_host rest
    rw [calm] at calm'
    exact ⟨more.gathers calm', by rw [awaits, calm']; rfl⟩

/-- Any other flag brings no hosts. -/
theorem Gathers.flag_other (h : s.Gathers held) (known : f ∈ Flag.all) (other : f.kind ≠ .hosts)
    {attached : Option String} (read : s.flag f attached = .ok s') :
    s.awaits = false ∧ s'.Gathers held ∧ s'.awaits = false := by
  -- with a value, or without need of one, the flag is added to the others at once
  have added : ∀ {before : State} {v}, before.Holds held → before.pending = none → before.add f v = .ok s' →
      s'.Gathers held ∧ s'.awaits = false := by
    intro before v holds calm read
    obtain ⟨same, calm'⟩ := holds.add_other known other read
    rw [calm] at calm'
    exact ⟨same.gathers calm', by rw [awaits, calm']⟩
  unfold State.flag at read
  split at read
  · obtain ⟨before, settled, rest⟩ := exists_of_bind read
    obtain ⟨holds, calm, free⟩ := h.settle settled
    cases attached with
    | none =>
      cases rest
      exact ⟨free, ⟨by simpa using known, held, holds, rfl⟩, by simp [awaits, other]⟩
    | some v => exact ⟨free, added holds calm rest⟩
  · obtain ⟨before, settled, rest⟩ := exists_of_bind read
    obtain ⟨holds, calm, free⟩ := h.settle settled
    exact ⟨free, added holds calm rest⟩

/-! ## Arguments -/

theorem mem_of_ofName? {name : String} (found : Flag.ofName? name = some f) : f ∈ Flag.all ∧ f.name = name :=
  ⟨List.mem_of_find?_eq_some found, by simpa using List.find?_some found⟩

theorem mem_of_ofShort? {c : Char} (found : Flag.ofShort? c = some f) : f ∈ Flag.all ∧ f.kind ≠ .hosts := by
  have mem := List.mem_of_find?_eq_some found
  have short : f.short = some c := by simpa using List.find?_some found
  exact ⟨mem, kind_ne_of_short f mem (by simp [short])⟩

/-- Short flags bring no hosts, and need none in front of them. -/
theorem Gathers.short (h : s.Gathers held) {cs : List Char} (read : s.short cs = .ok s') :
    s'.Gathers held ∧ (s.awaits = false → s'.awaits = false) ∧ (cs ≠ [] → s.awaits = false) := by
  induction cs generalizing s with
  | nil =>
    cases read
    exact ⟨h, id, fun filled => absurd rfl filled⟩
  | cons c cs ih =>
    unfold State.short at read
    split at read
    · cases read
    · next f found =>
      obtain ⟨known, other⟩ := mem_of_ofShort? found
      split at read
      · obtain ⟨free, gathers, free'⟩ := h.flag_other known other read
        exact ⟨gathers, fun _ => free', fun _ => free⟩
      · obtain ⟨middle, first, rest⟩ := exists_of_bind read
        obtain ⟨free, gathers, free'⟩ := h.flag_other known other first
        obtain ⟨gathers', keeps, -⟩ := ih gathers rest
        exact ⟨gathers', fun _ => keeps free', fun _ => free⟩

/-- A long flag that is not the one for hosts brings none. -/
theorem Gathers.long_other (h : s.Gathers held) {cs : List Char} (bare : cs ≠ "rpchost".toList)
    (tied : ∀ raw, cs ≠ "rpchost=".toList ++ raw) (read : s.long cs = .ok s') :
    s.awaits = false ∧ s'.Gathers held ∧ s'.awaits = false := by
  unfold State.long at read
  have whole : cs.takeWhile (· ≠ '=') ++ cs.dropWhile (· ≠ '=') = cs := List.takeWhile_append_dropWhile
  have mark : ∀ c raw, cs.dropWhile (· ≠ '=') = c :: raw → c = '=' := by
    intro c raw tail
    have first := List.head?_dropWhile_not (· ≠ '=') cs
    rw [tail] at first
    simpa using first
  rw [List.span_eq_takeWhile_dropWhile] at read
  generalize cs.takeWhile (· ≠ '=') = name at read whole
  generalize cs.dropWhile (· ≠ '=') = tail at read whole mark
  dsimp only at read
  cases found : Flag.ofName? (.ofList name) with
  | none =>
    rw [found] at read
    cases read
  | some f =>
    obtain ⟨known, named⟩ := mem_of_ofName? found
    have other : f.kind ≠ .hosts := by
      intro hosts
      cases eq_hostFlag_of_kind f known hosts
      have spelled : name = "rpchost".toList := by
        rw [← String.toList_ofList (l := name), ← named]
        rfl
      rw [spelled] at whole
      cases tail with
      | nil => exact bare (by rw [← whole, List.append_nil])
      | cons c raw =>
        cases mark c raw rfl
        exact tied raw whole.symm
    rw [found] at read
    cases tail with
    | nil => exact h.flag_other known other read
    | cons c raw =>
      dsimp only at read
      split at read
      · exact h.flag_other known other read
      · cases read

end State

/-! ## Values in the arguments -/

/-- What is behind a leading part. -/
theorem dropLeading?_eq_some_iff {part cs rest : List Char} :
    Text.dropLeading? part cs = some rest ↔ cs = part ++ rest := by
  induction part generalizing cs with
  | nil => simp [Text.dropLeading?]
  | cons p part ih =>
    cases cs with
    | nil => simp [Text.dropLeading?]
    | cons c cs =>
      rw [Text.dropLeading?, List.cons_append, List.cons.injEq]
      by_cases same : p = c
      · simp [same, ih]
      · simp [same, Ne.symm same]

/-- The attached value is what stands behind the sign. -/
theorem attached?_eq_some_iff {arg v : String} : attached? arg = some v ↔ arg = "--rpchost=" ++ v := by
  unfold attached?
  rw [Option.map_eq_some_iff, ← String.toList_inj, String.toList_append]
  constructor
  · rintro ⟨raw, found, rfl⟩
    rw [dropLeading?_eq_some_iff.1 found, String.toList_ofList (l := raw)]
  · intro whole
    exact ⟨v.toList, dropLeading?_eq_some_iff.2 whole, String.ofList_toList⟩

/-- The flag alone: its value comes next. -/
theorem valuesFrom_bare (args : List String) : valuesFrom false ("--rpchost" :: args) = valuesFrom true args := by
  rw [valuesFrom, if_pos rfl]

/-- The flag with its value. -/
theorem valuesFrom_tied (v : String) (args : List String) :
    valuesFrom false (("--rpchost=" ++ v) :: args) = v :: valuesFrom false args := by
  have longer : "--rpchost=" ++ v ≠ "--rpchost" := by
    intro same
    have length := congrArg String.length same
    rw [String.length_append] at length
    have shorter : "--rpchost".length < "--rpchost=".length := by decide
    omega
  rw [valuesFrom, if_neg longer, attached?_eq_some_iff.2 rfl]
  rfl

/-- Any other argument brings no value. -/
theorem valuesFrom_other {arg : String} (bare : arg ≠ "--rpchost") (tied : ∀ v, arg ≠ "--rpchost=" ++ v)
    (args : List String) : valuesFrom false (arg :: args) = valuesFrom false args := by
  have none : attached? arg = none := by
    cases found : attached? arg with
    | none => rfl
    | some v => exact absurd (attached?_eq_some_iff.1 found) (tied v)
  rw [valuesFrom, if_neg bare, none]
  rfl

/-- An argument that does not start with two dashes brings no value. -/
theorem valuesFrom_of_plain {arg : String} (plain : ∀ cs, arg.toList ≠ '-' :: '-' :: cs) (args : List String) :
    valuesFrom false (arg :: args) = valuesFrom false args := by
  refine valuesFrom_other ?_ ?_ args
  · rintro rfl
    exact plain "rpchost".toList rfl
  · rintro v rfl
    exact plain ("rpchost=".toList ++ v.toList) (String.toList_append ..)

namespace State

variable {s s' : State} {held : Option (List String)}

/-- A long flag brings what the argument says. -/
theorem Gathers.long (h : s.Gathers held) {arg : String} {cs : List Char} (shape : arg.toList = '-' :: '-' :: cs)
    (read : s.long cs = .ok s') : s.awaits = false ∧ ∃ held', s'.Gathers held' ∧
      ∀ args, (valuesFrom false (arg :: args)).foldl gather held = (valuesFrom s'.awaits args).foldl gather held' := by
  by_cases bare : cs = "rpchost".toList
  · cases bare
    obtain ⟨free, gathers, waits⟩ := h.flag_host (show s.flag hostFlag none = .ok s' from read)
    have spelled : arg = "--rpchost" := String.toList_inj.1 shape
    refine ⟨free, held, gathers, fun args => ?_⟩
    rw [spelled, valuesFrom_bare, waits]
    rfl
  by_cases tied : ∃ raw, cs = "rpchost=".toList ++ raw
  · obtain ⟨raw, rfl⟩ := tied
    obtain ⟨free, gathers, waits⟩ := h.flag_host (show s.flag hostFlag (some (.ofList raw)) = .ok s' from read)
    have spelled : arg = "--rpchost=" ++ .ofList raw := by
      rw [← String.toList_inj, shape, String.toList_append, String.toList_ofList (l := raw)]
      rfl
    refine ⟨free, _, gathers, fun args => ?_⟩
    rw [spelled, valuesFrom_tied, waits]
    rfl
  · obtain ⟨free, gathers, calm⟩ := h.long_other bare (not_exists.1 tied) read
    refine ⟨free, held, gathers, fun args => ?_⟩
    rw [calm, valuesFrom_other]
    · rintro rfl
      exact bare (by simpa using shape.symm)
    · rintro v rfl
      exact tied ⟨v.toList, by simpa using shape.symm⟩

/-- A value is for the flag that waits for it. -/
theorem Gathers.value (h : s.Gathers held) {f : Flag} (waits : s.pending = some (f, none)) {arg : String}
    (plain : ∀ cs, arg.toList ≠ '-' :: '-' :: cs) : ∃ held', Gathers { s with pending := some (f, some arg) } held' ∧
      ∀ args, (valuesFrom s.awaits (arg :: args)).foldl gather held = (valuesFrom false args).foldl gather held' := by
  obtain ⟨known, before, holds, gathered⟩ := h
  have mem : f ∈ Flag.all := known f none waits
  have same : before = held := by simpa [waiting, waits] using gathered
  rw [same] at holds
  refine ⟨_, ⟨by simpa using mem, held, holds, rfl⟩, fun args => ?_⟩
  by_cases hosts : f.kind = .hosts
  · simp [awaits, waits, waiting, hosts, valuesFrom]
  · simp [awaits, waits, waiting, hosts, valuesFrom_of_plain plain]

/-- **Accepted arguments hold the hosts that had come before and those of all their values.** -/
theorem Gathers.arguments {args : List String} (h : s.Gathers held) (read : s.arguments args = .ok s') :
    s'.Holds ((valuesFrom s.awaits args).foldl gather held) := by
  -- argument by argument: what has come, and whether the flag for hosts awaits its value, is all that matters later
  induction args generalizing s held with
  | nil =>
    obtain ⟨holds, -, free⟩ := h.settle read
    rw [valuesFrom]
    exact holds
  | cons arg args ih =>
    unfold State.arguments at read
    split at read
    · -- two dashes alone
      next shape =>
      cases args with
      | cons surplus args => cases read
      | nil =>
        obtain ⟨holds, -, free⟩ := h.settle read
        have spelled : arg = "--" := String.toList_inj.1 shape
        rw [free, spelled]
        exact holds
    · -- a long flag
      next cs _ shape =>
      obtain ⟨middle, first, rest⟩ := exists_of_bind read
      obtain ⟨free, held', gathers, same⟩ := h.long shape first
      rw [free, same]
      exact ih gathers rest
    · -- short flags
      next c cs _ single shape =>
      obtain ⟨middle, first, rest⟩ := exists_of_bind read
      obtain ⟨gathers, keeps, before⟩ := h.short first
      have free := before (List.cons_ne_nil _ _)
      have calm := keeps free
      have whole := ih gathers rest
      rw [calm] at whole
      rw [free, valuesFrom_of_plain]
      · exact whole
      · intro cs' twice
        rw [shape] at twice
        cases twice
        exact single rfl
    · -- a value
      next plain _ =>
      split at read
      · next f waits =>
        obtain ⟨held', gathers, same⟩ := h.value waits plain
        rw [same]
        exact ih gathers read
      · cases read

end State

/-! ## All arguments -/

theorem foldl_gather (values : List String) (held : List String) :
    values.foldl gather (some held) = some (held ++ values.flatMap cut) := by
  induction values generalizing held with
  | nil => simp
  | cons v values ih =>
    rw [List.foldl_cons, gather, Option.getD_some, ih, List.flatMap_cons, List.append_assoc]

/-- **Accepted arguments hold the hosts of all their values, in order.** -/
theorem lookup_of_parse {args : List String} {given : List (String × Given)} (read : parse args = .ok given) :
    lookup given "rpchost" = if hostValues args = [] then none else some (.hosts ((hostValues args).flatMap cut)) := by
  unfold parse at read
  cases whole : State.arguments ⟨[], none⟩ args with
  | error e =>
    rw [whole] at read
    cases read
  | ok s =>
    rw [whole] at read
    cases read
    have empty : State.Holds ⟨[], none⟩ none := rfl
    have holds : lookup s.given "rpchost" = ((hostValues args).foldl gather none).map .hosts :=
      (empty.gathers rfl).arguments whole
    rw [holds]
    cases hostValues args with
    | nil => rfl
    | cons v values =>
      rw [List.foldl_cons, gather, foldl_gather, if_neg (List.cons_ne_nil _ _)]
      rfl

/-! ## Hosts alone -/

/-- An argument that is a value where one is awaited. -/
def IsValue (v : String) : Prop := ∀ c cs, v.toList ≠ '-' :: c :: cs

/-- Values of the flag for hosts, and arguments that give them: each attached to its flag, or behind it. -/
inductive Spelled : List String → List String → Prop
  | nil : Spelled [] []
  | tied (v : String) {values args : List String} : Spelled values args →
    Spelled (v :: values) (("--rpchost=" ++ v) :: args)
  | apart {v : String} {values args : List String} : IsValue v → Spelled values args →
    Spelled (v :: values) ("--rpchost" :: v :: args)

/-- Any values can be given: each of them attached to its flag. -/
theorem Spelled.exists (values : List String) : ∃ args, Spelled values args := by
  induction values with
  | nil => exact ⟨[], .nil⟩
  | cons v values ih =>
    obtain ⟨args, spelled⟩ := ih
    exact ⟨_, .tied v spelled⟩

/-- The values of such arguments are what they spell. -/
theorem Spelled.hostValues_eq {values args : List String} (h : Spelled values args) : hostValues args = values := by
  unfold hostValues
  induction h with
  | nil => rfl
  | tied v _ ih => rw [valuesFrom_tied, ih]
  | apart _ _ ih => rw [valuesFrom_bare, valuesFrom, ih]

theorem State.add_hostFlag (s : State) (v : String) : ∃ given, s.add hostFlag v = .ok { s with given } := by
  unfold State.add
  cases s.given.find? (·.1 = hostFlag.name) with
  | none => exact ⟨_, rfl⟩
  | some g =>
    obtain ⟨name, value⟩ := g
    cases value <;> exact ⟨_, rfl⟩

/-- No flag waits for its value, unless it has come and is one for hosts. -/
def State.IsCalm (s : State) : Prop := s.pending = none ∨ ∃ v, s.pending = some (hostFlag, some v)

theorem State.IsCalm.settle {s : State} (h : s.IsCalm) : ∃ given, s.settle = .ok ⟨given, none⟩ := by
  obtain ⟨given, pending⟩ := s
  obtain rfl | ⟨v, rfl⟩ := h
  · exact ⟨given, rfl⟩
  · exact State.add_hostFlag ⟨given, none⟩ v

/-- An argument with two dashes in front is a long flag. -/
theorem State.arguments_long (s : State) {arg : String} {cs : List Char} (shape : arg.toList = '-' :: '-' :: cs)
    (filled : cs ≠ []) (args : List String) :
    s.arguments (arg :: args) = s.long cs >>= (State.arguments · args) := by
  cases cs with
  | nil => exact absurd rfl filled
  | cons c cs =>
    conv_lhs => unfold State.arguments
    rw [shape]
    rfl

/-- A value is an argument without flags, for the flag that waits for it. -/
theorem State.arguments_value (given : List (String × Given)) (f : Flag) {v : String} (plain : IsValue v)
    (args : List String) :
    State.arguments ⟨given, some (f, none)⟩ (v :: args) = State.arguments ⟨given, some (f, some v)⟩ args := by
  conv_lhs => unfold State.arguments
  split
  · next shape => exact absurd shape (plain _ _)
  · next shape => exact absurd shape (plain _ _)
  · next shape => exact absurd shape (plain _ _)
  · rfl

/-- Hosts alone are read in such a state. -/
theorem Spelled.arguments {values args : List String} (h : Spelled values args) {s : State} (calm : s.IsCalm) :
    ∃ s', s.arguments args = .ok s' := by
  induction h generalizing s with
  | nil =>
    obtain ⟨given, settled⟩ := calm.settle
    exact ⟨_, settled⟩
  | @tied v values args _ ih =>
    obtain ⟨given, settled⟩ := calm.settle
    obtain ⟨given', added⟩ := State.add_hostFlag ⟨given, none⟩ v
    obtain ⟨s', read⟩ := ih (s := ⟨given', none⟩) (.inl rfl)
    have shape : ("--rpchost=" ++ v).toList = '-' :: '-' :: ("rpchost=".toList ++ v.toList) := String.toList_append ..
    refine ⟨s', ?_⟩
    calc s.arguments (("--rpchost=" ++ v) :: args)
        = s.flag hostFlag (some (.ofList v.toList)) >>= (State.arguments · args) :=
          s.arguments_long shape (List.cons_ne_nil _ _) args
      _ = State.add ⟨given, none⟩ hostFlag v >>= (State.arguments · args) := by
          rw [String.ofList_toList, State.flag, settled]
          rfl
      _ = .ok s' := by rw [added]; exact read
  | @apart v values args plain _ ih =>
    obtain ⟨given, settled⟩ := calm.settle
    obtain ⟨s', read⟩ := ih (s := ⟨given, some (hostFlag, some v)⟩) (.inr ⟨v, rfl⟩)
    have shape : "--rpchost".toList = '-' :: '-' :: "rpchost".toList := rfl
    refine ⟨s', ?_⟩
    calc s.arguments ("--rpchost" :: v :: args)
        = s.flag hostFlag none >>= (State.arguments · (v :: args)) :=
          s.arguments_long shape (by decide) (v :: args)
      _ = State.arguments ⟨given, some (hostFlag, none)⟩ (v :: args) := by
          rw [State.flag, settled]
          rfl
      _ = .ok s' := by rw [State.arguments_value given hostFlag plain, read]

/-- **Arguments that spell nothing but hosts are accepted.** -/
theorem Spelled.parse {values args : List String} (h : Spelled values args) : ∃ given, parse args = .ok given := by
  obtain ⟨s, read⟩ := h.arguments (s := ⟨[], none⟩) (.inl rfl)
  exact ⟨s.given, by rw [CommandLine.parse, read]; rfl⟩

end CommandLine

end TxLoad
