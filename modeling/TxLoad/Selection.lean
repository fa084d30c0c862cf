import TxLoad.Failure

/-!
# Picking one of several

- `Selection` is how an endpoint or a worker is picked: by the dispatch's index, at random, or in turn;
- `Selection.parse` reads one, `Selection.label` names it;
- `Selection.pick` is the position picked from a collection of known length, and the cursor of the turns afterwards.
  It stays inside the collection (`pick_lt`), and only turns move the cursor (`cursor_lt`).
-/

namespace TxLoad

/-- How one of several is picked. -/
inductive Selection where
  | byIndex
  | random
  | inTurn
deriving DecidableEq, Repr

namespace Selection

/-- The name of the selection. -/
def label : Selection → String
  | byIndex => "index"
  | random => "random"
  | inTurn => "round-robin"

/-- Reads a selection; case and blanks around it do not count. -/
def parse (raw : String) : Except Failure Selection :=
  match Text.lower (Text.strip raw) with
  | "index" | "by-index" | "byindex" => .ok byIndex
  | "random" => .ok random
  | "round-robin" | "roundrobin" | "rr" => .ok inTurn
  | other => .error (.config (.unknownSelection other))

/-- A cursor brought back to the start when it is past the end. -/
def wrap (cursor length : Nat) : Nat := if length ≤ cursor then 0 else cursor

/-- The position picked from `length` things, and the cursor afterwards; `draw` is the random number at hand. -/
def pick (s : Selection) (key draw length cursor : Nat) : Nat × Nat :=
  match s with
  | byIndex => (key % length, cursor)
  | random => (draw % length, cursor)
  | inTurn => let i := wrap cursor length; (i, wrap (i + 1) length)

theorem wrap_lt {cursor length : Nat} (h : 0 < length) : wrap cursor length < length := by
  unfold wrap; split <;> omega

/-- The position picked lies in the collection. -/
theorem pick_lt (s : Selection) (key draw cursor : Nat) {length : Nat} (h : 0 < length) :
    (s.pick key draw length cursor).1 < length := by
  cases s
  · exact Nat.mod_lt _ h
  · exact Nat.mod_lt _ h
  · exact wrap_lt h

/-- A cursor inside the collection stays inside. -/
theorem cursor_lt (s : Selection) (key draw : Nat) {cursor length : Nat} (h : cursor < length) :
    (s.pick key draw length cursor).2 < length := by
  cases s
  · exact h
  · exact h
  · exact wrap_lt (by omega)

end Selection

end TxLoad
