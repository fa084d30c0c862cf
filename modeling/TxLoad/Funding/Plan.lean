import TxLoad.Amount

/-!
# Funding plans

How much a worker receives in one transfer, and below which balance it receives more. A plan that gives nothing is
disabled.
-/

namespace TxLoad.Funding

/-- How much a worker receives, and below which balance. -/
structure Plan where
  prefund : Nat
  minimum : Nat
deriving DecidableEq, Repr

namespace Plan

/-- Whether the plan gives nothing. -/
def disabled (p : Plan) : Bool := p.prefund = 0

/-- Whether a worker with the given balance receives more. -/
def needsTopUp (p : Plan) (balance : Nat) : Bool := !p.disabled && balance < p.minimum

end Plan

end TxLoad.Funding
