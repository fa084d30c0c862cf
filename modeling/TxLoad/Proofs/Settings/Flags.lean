import TxLoad.Proofs.Settings.Arguments

/-!
# Flags and their values

- `Typed` flags are flags that there are, with values of their kinds; every argument keeps them such
  (`State.Typed.long`, `State.Typed.short`, `State.Typed.arguments`);
- **accepted arguments give each flag a value of its kind** (`fits_of_parse`), so that a flag that is given has a
  number, a text or hosts, as it takes them (`exists_number`, `exists_text`, `exists_hosts`).
-/

namespace TxLoad.CommandLine

/-! ## Values -/

/-- The number that a flag is given. -/
def Given.number? : Given → Option Nat
  | .number n => some n
  | _ => none

/-- The text that a flag is given. -/
def Given.text? : Given → Option String
  | .text t => some t
  | _ => none

/-- The hosts that a flag is given. -/
def Given.hosts? : Given → Option (List String)
  | .hosts raw => some (raw.flatMap Url.parseList)
  | _ => none

theorem number?_eq (given : List (String × Given)) (name : String) :
    number? given name = (lookup given name).bind Given.number? := by
  unfold number?
  rcases lookup given name with _ | _ | _ | _ | _ <;> rfl

theorem text?_eq (given : List (String × Given)) (name : String) :
    text? given name = (lookup given name).bind Given.text? := by
  unfold text?
  rcases lookup given name with _ | _ | _ | _ | _ <;> rfl

theorem hosts?_eq (given : List (String × Given)) (name : String) :
    hosts? given name = (lookup given name).bind Given.hosts? := by
  unfold hosts?
  rcases lookup given name with _ | _ | _ | _ | _ <;> rfl

/-! ## Kinds -/

/-- A value is one that a flag of the kind takes. -/
def Given.Fits : Given → Flag.Kind → Prop
  | .switch, kind => kind = .switch
  | .number _, kind => kind = .word64 ∨ kind = .word16
  | .text _, kind => kind = .text
  | .hosts _, kind => kind = .hosts

/-- Flags that there are, with values of their kinds. -/
def Typed (given : List (String × Given)) : Prop := ∀ g ∈ given, ∃ f ∈ Flag.all, f.name = g.1 ∧ g.2.Fits f.kind

/-- A value is read as the kind of its flag demands; help and version are not read. -/
theorem fits_of_readValue {f : Flag} {raw : String} {g : Given} (read : readValue f raw = .ok g) (help : f.kind ≠ .help)
    (version : f.kind ≠ .version) : g.Fits f.kind := by
  unfold readValue at read
  split at read
  · next word =>
    cases n : natural word64Max raw with
    | error e => rw [n] at read; cases read
    | ok n' => rw [n] at read; cases read; exact .inl word
  · next word =>
    cases n : port raw with
    | error e => rw [n] at read; cases read
    | ok n' => rw [n] at read; cases read; exact .inr word
  · next text => cases read; exact text
  · next hosts => cases read; exact hosts
  · next switch => cases read; exact switch
  · next none => exact absurd none help
  · next none => exact absurd none version

namespace State

variable {s s' : State} {f : Flag}

/-- The flags are typed, and the one that waits is one that there is. -/
structure Typed (s : State) : Prop where
  given : CommandLine.Typed s.given
  known : ∀ f v, s.pending = some (f, v) → f ∈ Flag.all

/-- A flag that is added is typed. -/
theorem Typed.add (h : s.Typed) (mem : f ∈ Flag.all) {raw : String} (read : s.add f raw = .ok s') : s'.Typed := by
  have added : ∀ {value : Given}, value.Fits f.kind →
      State.Typed { s with given := s.given ++ [(f.name, value)] } := by
    intro value fits
    refine ⟨fun g inside => ?_, h.known⟩
    rcases List.mem_append.1 inside with before | last
    · exact h.given g before
    · cases List.mem_singleton.1 last
      exact ⟨f, mem, rfl, fits⟩
  unfold State.add at read
  split at read
  · cases read
  · cases read
  · next hosts =>
    obtain ⟨value, taken, rest⟩ := exists_of_bind read
    have fits := fits_of_readValue taken (by simp [hosts]) (by simp [hosts])
    split at rest
    · next before more =>
      cases rest
      refine ⟨fun g inside => ?_, h.known⟩
      obtain ⟨g', there, rfl⟩ := List.mem_map.1 inside
      split
      · next same => exact ⟨f, mem, same.symm, hosts⟩
      · exact h.given g' there
    · cases rest
      exact added fits
  · next help version hosts =>
    dsimp only at read
    split at read
    · cases read
    · obtain ⟨value, taken, rest⟩ := exists_of_bind read
      cases rest
      exact added (fits_of_readValue taken help version)

/-- What waits is typed when it is read. -/
theorem Typed.settle (h : s.Typed) (read : s.settle = .ok s') : s'.Typed := by
  obtain ⟨given, pending⟩ := s
  match pending, read with
  | none, read =>
    cases read
    exact h
  | some (f, none), read => cases read
  | some (f, some v), read =>
    have calm : State.Typed ⟨given, none⟩ := ⟨h.given, by rintro f v ⟨⟩⟩
    exact calm.add (h.known f _ rfl) read

/-- A flag keeps flags typed, with its value or waiting for it. -/
theorem Typed.flag (h : s.Typed) (mem : f ∈ Flag.all) {attached : Option String} (read : s.flag f attached = .ok s') :
    s'.Typed := by
  unfold State.flag at read
  split at read
  · obtain ⟨before, settled, rest⟩ := exists_of_bind read
    have typed := h.settle settled
    cases attached with
    | none =>
      cases rest
      refine ⟨typed.given, fun f' v waits => ?_⟩
      cases waits
      exact mem
    | some v => exact typed.add mem rest
  · obtain ⟨before, settled, rest⟩ := exists_of_bind read
    exact (h.settle settled).add mem rest

/-- Short flags keep flags typed. -/
theorem Typed.short (h : s.Typed) {cs : List Char} (read : s.short cs = .ok s') : s'.Typed := by
  induction cs generalizing s with
  | nil =>
    cases read
    exact h
  | cons c cs ih =>
    unfold State.short at read
    split at read
    · cases read
    · next f found =>
      have mem := (mem_of_ofShort? found).1
      split at read
      · exact h.flag mem read
      · obtain ⟨middle, first, rest⟩ := exists_of_bind read
        exact ih (h.flag mem first) rest

/-- A long flag keeps flags typed. -/
theorem Typed.long (h : s.Typed) {cs : List Char} (read : s.long cs = .ok s') : s'.Typed := by
  unfold State.long at read
  dsimp only at read
  split at read
  · cases read
  · next f raw found _ =>
    split at read
    · exact h.flag (mem_of_ofName? found).1 read
    · cases read
  · next f found _ => exact h.flag (mem_of_ofName? found).1 read

/-- **Arguments keep flags typed.** -/
theorem Typed.arguments {args : List String} (h : s.Typed) (read : s.arguments args = .ok s') : s'.Typed := by
  induction args generalizing s with
  | nil => exact h.settle read
  | cons arg args ih =>
    unfold State.arguments at read
    split at read
    · -- two dashes alone
      cases args with
      | nil => exact h.settle read
      | cons surplus args => cases read
    · -- a long flag
      obtain ⟨middle, first, rest⟩ := exists_of_bind read
      exact ih (h.long first) rest
    · -- short flags
      obtain ⟨middle, first, rest⟩ := exists_of_bind read
      exact ih (h.short first) rest
    · -- a value
      split at read
      · next f waits =>
        refine ih (s := { s with pending := some (f, some arg) }) ⟨h.given, fun f' v waiting => ?_⟩ read
        cases waiting
        exact h.known f _ waits
      · cases read

end State

/-! ## Given flags -/

section Parse

variable {args : List String} {given : List (String × Given)} {name : String} {g : Given}

/-- **Accepted arguments give each flag a value of its kind.** -/
theorem fits_of_parse (parsed : parse args = .ok given) (found : lookup given name = some g) :
    ∃ f ∈ Flag.all, f.name = name ∧ g.Fits f.kind := by
  unfold parse at parsed
  cases whole : State.arguments ⟨[], none⟩ args with
  | error e =>
    rw [whole] at parsed
    cases parsed
  | ok s =>
    rw [whole] at parsed
    cases parsed
    have start : State.Typed ⟨[], none⟩ := ⟨by rintro g ⟨⟩, by rintro f v ⟨⟩⟩
    obtain ⟨⟨name', value⟩, first, rfl⟩ := Option.map_eq_some_iff.1 found
    have same : name' = name := by simpa using List.find?_some first
    obtain ⟨f, mem, named, fits⟩ := (start.arguments whole).given _ (List.mem_of_find?_eq_some first)
    exact ⟨f, mem, named.trans same, fits⟩

theorem exists_number (parsed : parse args = .ok given)
    (takes : ∀ f ∈ Flag.all, f.name = name → f.kind = .word64 ∨ f.kind = .word16) (found : lookup given name = some g) :
    ∃ n, g.number? = some n := by
  obtain ⟨f, mem, named, fits⟩ := fits_of_parse parsed found
  cases g with
  | number n => exact ⟨n, rfl⟩
  | _ => rcases takes f mem named with word | word <;> simp_all [Given.Fits]

theorem exists_text (parsed : parse args = .ok given) (takes : ∀ f ∈ Flag.all, f.name = name → f.kind = .text)
    (found : lookup given name = some g) : ∃ t, g.text? = some t := by
  obtain ⟨f, mem, named, fits⟩ := fits_of_parse parsed found
  have kind := takes f mem named
  cases g with
  | text t => exact ⟨t, rfl⟩
  | _ => simp_all [Given.Fits]

theorem exists_hosts (parsed : parse args = .ok given) (takes : ∀ f ∈ Flag.all, f.name = name → f.kind = .hosts)
    (found : lookup given name = some g) : ∃ hosts, g.hosts? = some hosts := by
  obtain ⟨f, mem, named, fits⟩ := fits_of_parse parsed found
  have kind := takes f mem named
  cases g with
  | hosts raw => exact ⟨_, rfl⟩
  | _ => simp_all [Given.Fits]

end Parse

end TxLoad.CommandLine
