import TxLoad.Network.Endpoint
import TxLoad.Wallet.Account

/-!
# Calls one after the other

What a single caller hears who makes one call after the other and does nothing else meanwhile: `Net.call` is one call
that is waited for, up to its end. Reading an account (`Net.readAccount`, `Net.readNonce`) and learning the fees
(`Net.quote`) are built from it. A call that never ends has no result.
-/

namespace TxLoad.Network

/-- What a caller has after calls from `time` on: the time at which the last of them ended, and the result. -/
structure CallResult (α : Type) where
  time : Nat
  result : Option (Except Failure α)
  net : Net

namespace Net

/-- Makes a call and waits for its end; `action` says what is noted of it. -/
def call {α : Type} (n : Net) (i time : Nat) (ask : Endpoint → Answer α × Endpoint) (action : Except Failure α → Action) :
    CallResult α :=
  let (answer, n) := n.ask i ask
  match answer.result with
  | some result => ⟨time + answer.delay, some result, n.finish i (time + answer.delay) (action result)⟩
  | none => ⟨time, none, n⟩

/-- Reads the nonce of an account. -/
def readNonce (n : Net) (i time : Nat) (a : Account) : CallResult Account :=
  let heard := n.call i time (·.askNonce a.address) fun _ => .askedNonce a.address
  ⟨heard.time, heard.result.map (·.map fun nonce => { a with nextNonce := nonce }), heard.net⟩

/-- Reads the nonce of an account, then its balance. -/
def readAccount (n : Net) (i time : Nat) (a : Account) : CallResult Account :=
  let first := n.readNonce i time a
  match first.result with
  | some (.ok b) =>
    let second := first.net.call i first.time (·.askBalance a.address) fun _ => .askedBalance a.address
    ⟨second.time, second.result.map (·.map fun balance => { b with balance := balance }), second.net⟩
  | _ => first

/-- Learns the fees: those set by hand, or else what the endpoint suggests, raised to the floor. -/
def quote (n : Net) (i time : Nat) (o : Fee.Overrides) : CallResult Fee.Quote :=
  match o.quote? with
  | some q => ⟨time, some (.ok q.clamped), n⟩
  | none =>
    let heard := n.call i time Endpoint.askFees fun _ => .askedFees
    ⟨heard.time, heard.result.map (·.map fun (feeCap, tipCap) => (Fee.Quote.mk feeCap tipCap).clamped), heard.net⟩

end Net

end TxLoad.Network
