import TxLoad.Amount
import TxLoad.Failure

/-!
# Fees suggested from the recent past

- `History` is what a node tells about recent blocks: their base fees, the next block's last, and samples of tips;
- `suggest` derives a fee cap and a tip from it, and needs at least two base fees;
- `suggestFrom` does without: from the latest base fee, if known, and a tip.
-/

namespace TxLoad.Fee

/-- Base fees of recent blocks, the next block's last, and samples of the tips paid in them. -/
structure History where
  baseFees : List Nat
  rewards : List (List Nat)
deriving DecidableEq, Repr

/-- A fee cap and a tip, and the base fee that the cap allows for. -/
structure Suggestion where
  feeCap : Nat
  tip : Nat
  nextBase : Nat
deriving DecidableEq, Repr

/-- The tip when nobody paid one: two gwei. -/
def defaultTip : Nat := 2 * Wei.perGwei

/-- The base fee of a block that states none: one and a half gwei. -/
def defaultBase : Nat := 1500000000

/-- The greatest base fee of the block after one with the given base fee: an eighth more. The product saturates at
the greatest 128-bit word. -/
def nextBaseBound (base : Nat) : Nat := min (base * 1125) word128Max / 1000

/-- A base fee and a tip together, up to the greatest 128-bit word. -/
def suggestion (nextBase tip : Nat) : Suggestion := ⟨min (nextBase + tip) word128Max, tip, nextBase⟩

/-- The first sample of each block that has one. -/
def samples (rewards : List (List Nat)) : List Nat := rewards.filterMap List.head?

/-- The mean of the samples, rounded down. -/
def meanTip (samples : List Nat) : Nat :=
  if samples.isEmpty then defaultTip else samples.foldl (· + ·) 0 / samples.length

/-- The base fee of the next block: what the node says, or the bound from the latest block when it says zero. -/
def nextBase (latest told : Nat) : Nat := if told = 0 then nextBaseBound latest else told

/-- The failure of a history with fewer than two base fees. -/
def noHistory : Failure := .initialization "No base fee history"

/-- The suggestion from a history. -/
def suggest (h : History) : Except Failure Suggestion :=
  match h.baseFees.reverse with
  | told :: latest :: _ => .ok (suggestion (nextBase latest told) (meanTip (samples h.rewards)))
  | _ => .error noHistory

/-- The suggestion from the latest block's base fee and a tip. -/
def suggestFrom (base : Option Nat) (tip : Nat) : Suggestion := suggestion (nextBaseBound (base.getD defaultBase)) tip

end TxLoad.Fee
