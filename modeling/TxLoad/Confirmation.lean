import TxLoad.Amount

/-!
# Confirmations

What the receipt of a mined transaction tells: its block, whether it succeeded, and what it cost. A price or an
amount that the receipt does not state counts as zero.
-/

namespace TxLoad

/-- What the receipt of a mined transaction tells. -/
structure Confirmation where
  block : Nat
  success : Bool
  gasUsed : Nat
  gasPrice : Option Nat
  blobGasUsed : Option Nat
  blobGasPrice : Option Nat
deriving DecidableEq, Repr

namespace Confirmation

/-- The price of the gas that was used. -/
def executionFee (c : Confirmation) : Nat := Wei.times (c.gasPrice.getD 0) c.gasUsed

/-- The price of the blob gas that was used. -/
def blobFee (c : Confirmation) : Nat := Wei.times (c.blobGasPrice.getD 0) (c.blobGasUsed.getD 0)

/-- Everything that the transaction cost besides the value it moved. -/
def totalFee (c : Confirmation) : Nat := Wei.plus c.executionFee c.blobFee

/-- The outcome in one word. -/
def status (c : Confirmation) : String := if c.success then "success" else "reverted"

end Confirmation

end TxLoad
