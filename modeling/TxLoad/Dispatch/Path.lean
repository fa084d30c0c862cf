import TxLoad.Network.Relay

/-!
# Where transactions go

A run hands its signed transactions either to the endpoint that a dispatch picked, or all of them to one relay. There
is no fallback from one to the other.

`Path.label` and `Path.describe` name a path in the log and in diagnosis.
-/

namespace TxLoad.Dispatch

/-- Where signed transactions go. -/
inductive Path where
  | direct
  | relay (r : Relay)
deriving DecidableEq, Repr

namespace Path

/-- The name of the path. -/
def label : Path → String
  | direct => "direct"
  | relay _ => "relay"

/-- The path in words, for diagnosis. -/
def describe : Path → String
  | direct => "Direct"
  | relay r => Failure.withParts "Relay" [("url", Text.quoted r.url), ("rollup_id", Text.quoted r.rollup)]

end Path

end TxLoad.Dispatch
