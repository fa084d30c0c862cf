import TxLoad.Amount
import TxLoad.Log.Entry

/-!
# Fee quotes

- `Quote` is a pair of caps on the price of gas: the whole fee, and the tip;
- `Quote.clamped` raises both to the floor of one gwei;
- `Overrides` are fees set by hand in gwei; they count only when both are set; `Overrides.quote` is the quote at an
  endpoint.
-/

namespace TxLoad.Fee

/-- The least cap that is ever offered: one gwei. -/
def floor : Nat := Wei.perGwei

/-- Caps on the price of gas. -/
structure Quote where
  feeCap : Nat
  tipCap : Nat
deriving DecidableEq, Repr

/-- Both caps raised to the floor. -/
def Quote.clamped (q : Quote) : Quote := ⟨max q.feeCap floor, max q.tipCap floor⟩

/-- Whether nodes will refuse the quote: the tip may not exceed the whole fee. -/
def Quote.tipExceedsCap (q : Quote) : Bool := q.feeCap < q.tipCap

/-- What is said of a quote from the endpoint `rpc` that nodes will refuse. -/
def Quote.warnings (q : Quote) (rpc : String) : List Log.Entry :=
  if q.tipExceedsCap then
    [⟨"fees", .warn, "Tip cap above fee cap; nodes will reject these transactions",
      [("fee_cap", .number q.feeCap), ("tip_cap", .number q.tipCap), ("rpc", .text rpc)]⟩]
  else []

/-- Clamping keeps a tip that fits its fee cap. -/
theorem Quote.tipExceedsCap_clamped {q : Quote} (h : q.tipExceedsCap = false) :
    q.clamped.tipExceedsCap = false := by
  unfold tipExceedsCap at *
  simp only [decide_eq_false_iff_not, Nat.not_lt] at *
  simp only [clamped]
  omega

/-- Fees set by hand, in gwei; zero means not set. -/
structure Overrides where
  baseGwei : Nat
  tipGwei : Nat
deriving DecidableEq, Repr

/-- The quote set by hand, if both parts are. -/
def Overrides.quote? (o : Overrides) : Option Quote :=
  if 0 < o.baseGwei ∧ 0 < o.tipGwei then some ⟨o.baseGwei * Wei.perGwei, o.tipGwei * Wei.perGwei⟩ else none

/-- The quote at an endpoint that would suggest a fee cap and a tip: the one set by hand, or else the suggestion, raised
to the floor. -/
def Overrides.quote {ε : Type} (o : Overrides) (suggested : Except ε (Nat × Nat)) : Except ε Quote :=
  match o.quote? with
  | some q => .ok q.clamped
  | none => suggested.map fun (feeCap, tipCap) => (Quote.mk feeCap tipCap).clamped

end TxLoad.Fee
