import TxLoad.Failure
import TxLoad.Wait

/-!
# Scripted answers

A simulation plays a run against nodes whose answers are written down beforehand.

- `Entry` is one written answer: how long it takes, and whether it is a failure, a value, or never comes;
- `Script` is a row of entries of which the last repeats, or a cycle of them;
- `ScriptState` is a script with the number of calls made so far; `ScriptState.next` is the entry of the next call.
-/

namespace TxLoad.Network

/-- A written failure; a refusal of a transaction names the hash of the transaction at hand. -/
inductive Refusal where
  | plain (e : Failure)
  | ofTransaction (reason : String)

/-- The failure that a refusal stands for, when the transaction at hand has the given hash. -/
def Refusal.toFailure (hash : String) : Refusal → Failure
  | .plain e => e
  | .ofTransaction reason => .transaction hash reason

/-- One written answer. -/
structure Entry (α : Type) where
  delay : Nat
  hang : Bool
  refusal : Option Refusal
  value : Option α

/-- The entry that says nothing: an immediate success with the usual value. -/
def Entry.plain {α : Type} : Entry α := ⟨0, false, none, none⟩

/-- How a call ends: after some milliseconds with a result, or never. -/
structure Answer (α : Type) where
  delay : Nat
  result : Option (Except Failure α)

/-- How the call of an entry ends; `hash` is the transaction at hand and `usual` the value of a success that states
none. -/
def Entry.answer {α : Type} (e : Entry α) (hash : String) (usual : α) : Answer α where
  delay := Wait.bounded e.delay
  result :=
    if e.hang then none
    else match e.refusal with
      | some r => some (.error (r.toFailure hash))
      | none => some (.ok (e.value.getD usual))

/-- A row of entries. -/
inductive Script (α : Type) where
  | lastRepeats (entries : List (Entry α))
  | cycle (entries : List (Entry α))

/-- The entry of call `n`, counted from zero. -/
def Script.entry {α : Type} (s : Script α) (n : Nat) : Entry α :=
  match s with
  | .lastRepeats entries => entries.getD (min n (entries.length - 1)) .plain
  | .cycle entries => entries.getD (n % entries.length) .plain

/-- A script with the number of calls made so far. -/
structure ScriptState (α : Type) where
  script : Script α
  calls : Nat

/-- The entry of the next call, and the script after it. -/
def ScriptState.next {α : Type} (d : ScriptState α) : Entry α × ScriptState α := (d.script.entry d.calls, { d with calls := d.calls + 1 })

end TxLoad.Network
