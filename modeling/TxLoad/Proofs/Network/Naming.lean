import TxLoad.Metrics
import TxLoad.Network.Node
import TxLoad.Proofs.Pool.Rotation
import Mathlib.Data.List.Basic

/-!
# Names of nodes

A single node has the name of its host. Several nodes have their positions behind their hosts, and a host may itself
end in a dash and a number.

- The last dash parts a host from the position behind it (`behindDash_inj`), so names tell positions (`nameOf_inj`);
- every URL becomes a node, in order, or the first one that is none is what the list is refused for
  (`ofUrlsFrom_cases`);
- `Unambiguous` names mean one endpoint each wherever they are shown; names that differ are such (`unambiguous`);
- **the nodes of a list of URLs have such names** (`nodes_told_apart`).
-/

namespace TxLoad

namespace Network.Node

/-! ## Names -/

theorem dash_notMem_digits (n : Nat) : '-' ∉ Nat.toDigits 10 n := by
  intro dash
  have digit : '-'.isDigit = true := Nat.isDigit_of_mem_toDigits (by decide) (by decide) dash
  exact absurd digit (by decide)

/-- The last of some marks parts a list. -/
theorem split_last {α : Type} {mark : α} {xs xs' ys ys' : List α} (same : xs ++ mark :: ys = xs' ++ mark :: ys')
    (last : mark ∉ ys) (last' : mark ∉ ys') : xs = xs' ∧ ys = ys' := by
  obtain ⟨more, rfl, rest⟩ | ⟨more, rfl, rest⟩ := List.append_eq_append_iff.1 same
  · cases more with
    | nil => exact ⟨(List.append_nil _).symm, (List.cons.inj rest).2⟩
    | cons x more =>
      obtain ⟨rfl, rfl⟩ := List.cons.inj rest
      exact absurd (List.mem_append_right _ List.mem_cons_self) last
  · cases more with
    | nil => exact ⟨List.append_nil _, (List.cons.inj rest).2.symm⟩
    | cons x more =>
      obtain ⟨rfl, rfl⟩ := List.cons.inj rest
      exact absurd (List.mem_append_right _ List.mem_cons_self) last'

/-- **The last dash parts what stands in front of it from the number behind it.** -/
theorem behindDash_inj {host host' : String} {m n : Nat}
    (same : host ++ "-" ++ toString m = host' ++ "-" ++ toString n) : host = host' ∧ m = n := by
  have chars : host.toList ++ '-' :: Nat.toDigits 10 m = host'.toList ++ '-' :: Nat.toDigits 10 n := by
    simpa [Nat.toString_eq_ofList_toDigits] using congrArg String.toList same
  obtain ⟨hosts, digits⟩ := split_last chars (dash_notMem_digits m) (dash_notMem_digits n)
  refine ⟨String.toList_inj.1 hosts, ?_⟩
  calc m = Nat.ofDigitChars 10 (Nat.toDigits 10 m) 0 := Nat.ofDigitChars_ten_toDigits.symm
    _ = Nat.ofDigitChars 10 (Nat.toDigits 10 n) 0 := by rw [digits]
    _ = n := Nat.ofDigitChars_ten_toDigits

/-- **Names tell positions**, whatever the hosts. -/
theorem nameOf_inj {host host' : Option String} {i j count : Nat} (hi : i < count) (hj : j < count)
    (same : nameOf host i count = nameOf host' j count) : i = j := by
  unfold nameOf at same
  by_cases several : 1 < count
  · rw [if_pos several, if_pos several] at same
    obtain ⟨-, next⟩ := behindDash_inj same
    exact Nat.succ.inj next
  · omega

example : nameOf (some "a-2") 0 2 = "a-2-1" ∧ nameOf (some "a") 1 2 = "a-2" := by decide

/-! ## Lists of URLs -/

/-- **Every URL becomes a node, in order, or the first one that is none is what the list is refused for.** -/
theorem ofUrlsFrom_cases (wait count position : Nat) (urls : List String) :
    (∃ nodes, ofUrlsFrom wait count position urls = .ok nodes ∧ nodes.length = urls.length ∧
        ∀ (i : Nat) (url : String), urls[i]? = some url → ∃ host, Url.host url = .ok host ∧
          nodes[i]? = some (named (nameOf host (position + i) count) url wait)) ∨
      ∃ before url later fault, urls = before ++ url :: later ∧ (∀ u ∈ before, ∃ host, Url.host u = .ok host) ∧
        Url.host url = .error fault ∧
        ofUrlsFrom wait count position urls = .error (.config (.badNodeUrl url fault)) := by
  induction urls generalizing position with
  | nil => exact .inl ⟨[], rfl, rfl, fun i url here => by cases here⟩
  | cons url urls ih =>
    rw [ofUrlsFrom]
    cases first : Url.host url with
    | error fault => exact .inr ⟨[], url, urls, fault, rfl, List.forall_mem_nil _, first, rfl⟩
    | ok host =>
      obtain ⟨nodes, rest, length, each⟩ | ⟨before, bad, later, fault, rfl, good, refused, rest⟩ := ih (position + 1)
      · refine .inl ⟨named (nameOf host position count) url wait :: nodes, by rw [rest]; rfl, by simp [length], ?_⟩
        intro i u here
        cases i with
        | zero =>
          cases here
          exact ⟨host, first, rfl⟩
        | succ i =>
          obtain ⟨host', read, there⟩ := each i u here
          rw [Nat.add_right_comm] at there
          exact ⟨host', read, there⟩
      · refine .inr ⟨url :: before, bad, later, fault, rfl, ?_, refused, by rw [rest]; rfl⟩
        exact List.forall_mem_cons.2 ⟨⟨host, first⟩, good⟩

end Network.Node

/-! ## Names that are shown -/

namespace Pool

section Names

variable {names : List String} {checks : List Checkup} {name : String} {i : Nat} {c : Checkup}

theorem position_unique (distinct : names.Nodup) {j : Nat} (here : names[i]? = some name)
    (there : names[j]? = some name) : i = j := by
  obtain ⟨inside, -⟩ := List.getElem?_eq_some_iff.1 here
  exact (List.getElem?_inj inside distinct).1 (here.trans there.symm)

/-- Among names that differ, one is kept by a check if its own check has the property. -/
theorem mem_names_of_checks {q : Checkup → Bool} (distinct : names.Nodup) (here : names[i]? = some name)
    (checked : checks[i]? = some c) :
    name ∈ ((names.zip checks).filter fun x => q x.2).map (·.1) ↔ q c = true := by
  constructor
  · intro mem
    obtain ⟨⟨_, c'⟩, kept, rfl⟩ := List.mem_map.1 mem
    obtain ⟨zipped, holds⟩ := List.mem_filter.1 kept
    obtain ⟨j, at_j⟩ := List.mem_iff_getElem?.1 zipped
    obtain ⟨there, checked'⟩ := List.getElem?_zip_eq_some.1 at_j
    cases position_unique distinct here there
    cases checked.symm.trans checked'
    exact holds
  · intro holds
    have zipped : (name, c) ∈ names.zip checks :=
      List.mem_iff_getElem?.2 ⟨i, List.getElem?_zip_eq_some.2 ⟨here, checked⟩⟩
    exact List.mem_map.2 ⟨(name, c), List.mem_filter.2 ⟨zipped, holds⟩, rfl⟩

theorem good_report : (report names checks).good = ((names.zip checks).filter fun x => x.2.result.isOk).map (·.1) := by
  simp [report, List.partition_eq_filter_filter]

theorem bad_report : (report names checks).bad = ((names.zip checks).filter fun x => !x.2.result.isOk).map (·.1) := by
  simp [report, List.partition_eq_filter_filter, Function.comp_def]

theorem nodup_report (distinct : names.Nodup) : ((report names checks).good ++ (report names checks).bad).Nodup := by
  rw [good_report, bad_report, ← List.map_append]
  have all := (List.filter_append_perm (fun x : String × Checkup => x.2.result.isOk) (names.zip checks)).map (·.1)
  have front : ((names.zip checks).map (·.1)).Sublist names := by
    rw [List.zip_eq_zip_take_min, List.map_fst_zip (by simp)]
    exact List.take_sublist _ _
  exact all.nodup_iff.2 (distinct.sublist front)

theorem mem_good_report (distinct : names.Nodup) (here : names[i]? = some name) (checked : checks[i]? = some c) :
    name ∈ (report names checks).good ↔ c.result.isOk = true := by
  rw [good_report]
  exact mem_names_of_checks (q := fun c => c.result.isOk) distinct here checked

theorem mem_bad_report (distinct : names.Nodup) (here : names[i]? = some name) (checked : checks[i]? = some c) :
    name ∈ (report names checks).bad ↔ c.result.isOk = false := by
  rw [bad_report, mem_names_of_checks (q := fun c => !c.result.isOk) distinct here checked, Bool.not_eq_true']

/-- The log of a health check names the bad endpoints of its report. -/
theorem mem_healthLog_iff : (∃ entry ∈ healthLog names checks, ("rpc", .text name) ∈ entry.fields) ↔
    name ∈ (report names checks).bad := by
  rw [bad_report]
  unfold healthLog
  constructor
  · rintro ⟨entry, said, named⟩
    rcases List.mem_append.1 said with warned | counted
    · obtain ⟨⟨other, c⟩, zipped, told⟩ := List.mem_filterMap.1 warned
      cases outcome : c.result with
      | ok =>
        simp only [outcome] at told
        cases told
      | error e =>
        simp only [outcome] at told
        cases told
        have same : name = other := by simpa using named
        have failed : (!c.result.isOk) = true := by rw [outcome]; rfl
        exact List.mem_map.2 ⟨(other, c), List.mem_filter.2 ⟨zipped, failed⟩, same.symm⟩
    · cases List.mem_singleton.1 counted
      simp at named
  · intro bad
    obtain ⟨⟨name, c⟩, kept, rfl⟩ := List.mem_map.1 bad
    obtain ⟨zipped, failed⟩ := List.mem_filter.1 kept
    cases outcome : c.result with
    | ok => simp [outcome, Except.isOk, Except.toBool] at failed
    | error e =>
      refine ⟨⟨"pool", .warn, "Endpoint marked bad", [("rpc", .text name), ("error", .text e.message)]⟩,
        List.mem_append_left _ (List.mem_filterMap.2 ⟨_, zipped, ?_⟩), List.mem_cons_self⟩
      simp only [outcome]

/-- A run shows the names of the endpoints that are good in its pool. -/
theorem mem_shown_iff (distinct : names.Nodup) {last : Option (Vector Checkup names.length)} {p : Pool}
    (kept : Kept names.length last p) (context : Dispatch.Context) (now : Nat) (here : names[i]? = some name) :
    name ∈ (Metrics.Report.ofRun context p names now).good ↔ i ∈ p.good := by
  show name ∈ p.good.map (fun i => names.getD i "") ↔ i ∈ p.good
  constructor
  · intro mem
    obtain ⟨j, good, named⟩ := List.mem_map.1 mem
    have inside : j < names.length := ((kept.mem_iff j).1 good).1
    have there : names[j]? = some name := by
      rw [← named, List.getD_eq_getElem?_getD, List.getElem?_eq_getElem inside]
      rfl
    rw [position_unique distinct here there]
    exact good
  · intro good
    exact List.mem_map.2 ⟨i, good, by simp [here]⟩

end Names

/-- **Names that mean one endpoint each, wherever they are shown**: a name stands in a report, in the log of a health
check, or among the good endpoints of a run, exactly if it should for the one endpoint that has it. -/
structure Unambiguous (names : List String) : Prop where
  /-- No two endpoints have one name. -/
  apart : ∀ (i j : Nat) (name : String), names[i]? = some name → names[j]? = some name → i = j
  /-- No endpoint is reported twice. -/
  once : ∀ checks, ((report names checks).good ++ (report names checks).bad).Nodup
  good : ∀ (checks : List Checkup) (i : Nat) (name : String) (c : Checkup), names[i]? = some name →
    checks[i]? = some c → (name ∈ (report names checks).good ↔ c.result.isOk = true)
  bad : ∀ (checks : List Checkup) (i : Nat) (name : String) (c : Checkup), names[i]? = some name →
    checks[i]? = some c → (name ∈ (report names checks).bad ↔ c.result.isOk = false)
  logged : ∀ (checks : List Checkup) (i : Nat) (name : String) (c : Checkup), names[i]? = some name →
    checks[i]? = some c →
      ((∃ entry ∈ healthLog names checks, ("rpc", .text name) ∈ entry.fields) ↔ c.result.isOk = false)
  /-- What is shown of a run goes by the pool, whatever has happened to it. -/
  shown : ∀ (p : Pool) (calls : List (Call names.length)) (context : Dispatch.Context) (now i : Nat) (name : String),
    ofTotal names.length = .ok p → names[i]? = some name →
      (name ∈ (Metrics.Report.ofRun context (p.after calls) names now).good ↔ i ∈ (p.after calls).good)

/-- **Names that differ are unambiguous.** -/
theorem unambiguous {names : List String} (distinct : names.Nodup) : Unambiguous names where
  apart _ _ _ here there := position_unique distinct here there
  once _ := nodup_report distinct
  good _ _ _ _ here checked := mem_good_report distinct here checked
  bad _ _ _ _ here checked := mem_bad_report distinct here checked
  logged _ _ _ _ here checked := mem_healthLog_iff.trans (mem_bad_report distinct here checked)
  shown _ calls context now _ _ made here := mem_shown_iff distinct ((Kept.start made).after calls) context now here

end Pool

namespace Network.Node

/-- **The nodes of a list of URLs are told apart by their names.**

Every URL becomes a node, in order, named by its host and its position, and the names are unambiguous; or the first URL
that is none is what the list is refused for, and there are no nodes at all. -/
theorem nodes_told_apart (urls : List String) (wait : Nat) :
    (∃ nodes, ofUrls urls wait = .ok nodes ∧ nodes.map (·.url) = urls ∧
        (∀ (i : Nat) (node : Node), nodes[i]? = some node → ∃ host, Url.host node.url = .ok host ∧
          node = named (nameOf host i urls.length) node.url wait) ∧
        (nodes.map (·.name)).Nodup ∧ Pool.Unambiguous (nodes.map (·.name))) ∨
      ∃ before url later fault, urls = before ++ url :: later ∧ (∀ u ∈ before, ∃ host, Url.host u = .ok host) ∧
        Url.host url = .error fault ∧ ofUrls urls wait = .error (.config (.badNodeUrl url fault)) := by
  refine (ofUrlsFrom_cases wait urls.length 0 urls).imp_left ?_
  rintro ⟨nodes, made, length, each⟩
  have whole : ∀ (i : Nat) (node : Node), nodes[i]? = some node → urls[i]? = some node.url ∧
      ∃ host, Url.host node.url = .ok host ∧ node = named (nameOf host i urls.length) node.url wait := by
    intro i node here
    obtain ⟨inside, -⟩ := List.getElem?_eq_some_iff.1 here
    rw [length] at inside
    obtain ⟨host, read, there⟩ := each i _ (List.getElem?_eq_getElem inside)
    rw [Nat.zero_add] at there
    cases here.symm.trans there
    exact ⟨List.getElem?_eq_getElem inside, host, read, rfl⟩
  have distinct : (nodes.map (·.name)).Nodup := by
    refine List.nodup_iff_getElem?_ne_getElem?.2 fun i j before inside same => ?_
    rw [List.length_map, length] at inside
    obtain ⟨host, -, here⟩ := each i _ (List.getElem?_eq_getElem (before.trans inside))
    obtain ⟨host', -, there⟩ := each j _ (List.getElem?_eq_getElem inside)
    rw [List.getElem?_map, List.getElem?_map, here, there, Nat.zero_add, Nat.zero_add] at same
    exact Nat.ne_of_lt before (nameOf_inj (before.trans inside) inside (Option.some.inj same))
  refine ⟨nodes, made, ?urls, fun i node here => (whole i node here).2, distinct, Pool.unambiguous distinct⟩
  case urls =>
    refine List.ext_getElem? fun i => ?_
    rw [List.getElem?_map]
    cases here : nodes[i]? with
    | none =>
      rw [List.getElem?_eq_none (by rw [← length]; exact List.getElem?_eq_none_iff.1 here)]
      rfl
    | some node => exact (whole i node here).1.symm

end Network.Node

end TxLoad
