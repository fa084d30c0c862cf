import TxLoad.Dispatch.Context
import TxLoad.Pool
import TxLoad.Text.Blank

/-!
# Metrics of a run

A run shows its counts to whoever asks over HTTP: as JSON under `/summary`, and as plain text anywhere else.

- `Report` is what is shown, `Report.ofRun` takes it from a run;
- `Report.text` and `Report.json` are its two forms;
- `respond` is the whole response to a request.
-/

namespace TxLoad.Metrics

/-- What is shown of a run: its summary, how many dispatches are in flight, how many slots are free if they are
limited, the names of the good endpoints and the number of all, and whether the run was aborted. -/
structure Report where
  summary : Dispatch.Summary
  inFlight : Nat
  free : Option Nat
  good : List String
  endpoints : Nat
  aborted : Bool
deriving DecidableEq, Repr

/-- What a run shows at a moment; `names` are the names of its endpoints. -/
def Report.ofRun (c : Dispatch.Context) (p : Pool) (names : List String) (now : Nat) : Report where
  summary := c.summary now
  inFlight := c.counters.inFlight
  free := c.gate.available
  good := p.good.map fun i => names.getD i ""
  endpoints := p.total
  aborted := c.fatal.raised

/-! ## Plain text -/

/-- Whether a number only grows, or goes up and down. -/
inductive Kind where
  | counter
  | gauge

/-- The name of the kind. -/
def Kind.label : Kind → String
  | .counter => "counter"
  | .gauge => "gauge"

/-- Two lines that show one number. -/
def line (name : String) (kind : Kind) (n : Nat) : String :=
  "# TYPE loadgen_" ++ name ++ " " ++ kind.label ++ "\nloadgen_" ++ name ++ " " ++ toString n ++ "\n"

/-- The numbers that are shown, with their names. -/
def Report.numbers (r : Report) : List (String × Kind × Nat) :=
  [("dispatched", .counter, r.summary.dispatched),
    ("submitted", .counter, r.summary.submitted),
    ("failed_dispatches", .counter, r.summary.failed),
    ("confirmed", .counter, r.summary.confirmed),
    ("reverted", .counter, r.summary.reverted),
    ("watch_errors", .counter, r.summary.watchErrors),
    ("timeouts", .counter, r.summary.timeouts),
    ("in_flight", .gauge, r.inFlight),
    ("fees_paid_wei", .counter, r.summary.feesPaid),
    ("endpoints_good", .gauge, r.good.length),
    ("endpoints_total", .gauge, r.endpoints)] ++
  r.free.toList.map fun free => ("admission_free", .gauge, free)

/-- The report as plain text. -/
def Report.text (r : Report) : String := String.join (r.numbers.map fun (name, kind, n) => line name kind n)

/-! ## JSON -/

/-- A character inside a quoted text. -/
def jsonChar (c : Char) : String :=
  match c with
  | '"' => "\\\""
  | '\\' => "\\\\"
  | '\n' => "\\n"
  | '\r' => "\\r"
  | '\t' => "\\t"
  | '\x08' => "\\b"
  | '\x0c' => "\\f"
  | c =>
    if c.toNat < 32 then
      let digits := Nat.toDigits 16 c.toNat
      "\\u" ++ .ofList (List.replicate (4 - digits.length) '0' ++ digits)
    else c.toString

/-- A quoted text. -/
def jsonText (s : String) : String := "\"" ++ String.join (s.toList.map jsonChar) ++ "\""

/-- An object with the given members, whose values are written already. -/
def jsonObject (members : List (String × String)) : String :=
  "\x7b" ++ ",".intercalate (members.map fun (name, value) => jsonText name ++ ":" ++ value) ++ "\x7d"

/-- The report as JSON, its members in the order of their names. -/
def Report.json (r : Report) : String := jsonObject [
  ("aborted", toString r.aborted),
  ("confirmed", toString r.summary.confirmed),
  ("dispatched", toString r.summary.dispatched),
  ("elapsedMs", toString r.summary.elapsed),
  ("endpoints", "[" ++ ",".intercalate (r.good.map jsonText) ++ "]"),
  ("failedDispatches", toString r.summary.failed),
  ("feesPaidWei", jsonText (toString r.summary.feesPaid)),
  ("inFlight", toString r.inFlight),
  ("reverted", toString r.summary.reverted),
  ("submitted", toString r.summary.submitted),
  ("timeouts", toString r.summary.timeouts),
  ("watchErrors", toString r.summary.watchErrors)]

/-! ## Requests -/

/-- The path that a request asks for: the second word of its first line. -/
def path (request : String) : String :=
  let line := request.toList.takeWhile (· ≠ '\n')
  let words := (Text.splitOnAny Text.isBlank line).filter (! ·.isEmpty)
  match words with
  | _ :: path :: _ => .ofList path
  | _ => "/"

/-- The body of the response to a request, and what it is. -/
def page (r : Report) (request : String) : String × String :=
  if (path request).startsWith "/summary" then ("application/json", r.json) else ("text/plain", r.text)

/-- The whole response to a request. -/
def respond (r : Report) (request : String) : String :=
  let (contentType, body) := page r request
  "HTTP/1.1 200 OK\r\nContent-Type: " ++ contentType ++ "\r\nContent-Length: " ++ toString body.utf8ByteSize ++
    "\r\n\r\n" ++ body

end TxLoad.Metrics
