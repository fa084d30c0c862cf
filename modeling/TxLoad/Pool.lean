import TxLoad.Network.Endpoint
import TxLoad.Selection

/-!
# The pool of endpoints

- `Pool` knows how many endpoints are configured, which of them are good (as positions, in configured order), and
  whose turn it is;
- `Pool.select` picks a good endpoint, or fails when there is none;
- `Pool.refresh` takes the outcomes of a health check of all endpoints; the good ones replace the old set at once.
-/

namespace TxLoad

/-- The endpoints of a run, as positions in the configured list. -/
structure Pool where
  total : Nat
  good : List Nat
  cursor : Nat
deriving DecidableEq, Repr

namespace Pool

/-- A pool in which every endpoint is good; there has to be one. -/
def ofTotal (total : Nat) : Except Failure Pool :=
  if total = 0 then .error (.config .noEndpoints) else .ok ⟨total, List.range total, 0⟩

/-- Picks a good endpoint. -/
def select (p : Pool) (s : Selection) (key draw : Nat) : Except Failure Nat × Pool :=
  let (i, cursor) := s.pick key draw p.good.length p.cursor
  match p.good[i]? with
  | some e => (.ok e, { p with cursor := cursor })
  | none => (.error (.noHealthyEndpoints p.total), p)

/-! ## Health -/

/-- How a health check ended: the milliseconds it took, and its result. -/
structure Checkup where
  took : Nat
  result : Except Failure Unit

/-- The failure of a check that gave no answer in time. -/
def checkTimeout (name : String) (limit : Nat) : Failure :=
  .connection (name ++ ": health check timed out after " ++ toString limit ++ "ms")

/-- A check is cut off when the wait for it ends; an answer at that moment itself still counts. The failure tells the
limit that was asked for. -/
def checkup (name : String) (limit : Nat) (a : Network.Answer Unit) : Checkup :=
  let wait := Wait.bounded limit
  match a.result with
  | some result => if a.delay ≤ wait then ⟨a.delay, result⟩ else ⟨wait, .error (checkTimeout name limit)⟩
  | none => ⟨wait, .error (checkTimeout name limit)⟩

/-- The positions of the endpoints whose check succeeded. -/
def healthy (checks : List Checkup) : List Nat :=
  (List.range checks.length).filter fun i => ((checks[i]?.map fun c => c.result.isOk).getD false)

/-- The pool after a health check of all endpoints: the healthy ones are good, and the cursor stays inside. -/
def refresh (p : Pool) (checks : List Checkup) : Pool :=
  let good := healthy checks
  { p with good := good, cursor := Selection.wrap p.cursor good.length }

/-- The names of the good and of the bad endpoints, each in configured order. -/
structure HealthReport where
  good : List String
  bad : List String
deriving DecidableEq, Repr

/-- The report of a health check. -/
def report (names : List String) (checks : List Checkup) : HealthReport :=
  let (good, bad) := (names.zip checks).partition fun (_, c) => c.result.isOk
  ⟨good.map (·.1), bad.map (·.1)⟩

/-- A report without a good endpoint is a failure. -/
def HealthReport.verdict (r : HealthReport) (total : Nat) : Except Failure HealthReport :=
  if r.good.isEmpty then .error (.noHealthyEndpoints total) else .ok r

/-- What is said about a health check. -/
def healthLog (names : List String) (checks : List Checkup) : List Log.Entry :=
  let r := report names checks
  (names.zip checks).filterMap (fun (name, c) =>
    match c.result with
    | .ok () => none
    | .error e => some ⟨"pool", .warn, "Endpoint marked bad", [("rpc", .text name), ("error", .text e.message)]⟩) ++
  [⟨"pool", .info, "Endpoint health refreshed", [("good", .number r.good.length), ("bad", .number r.bad.length)]⟩]

/-- How long a health check of all endpoints takes: as long as the slowest. -/
def duration (checks : List Checkup) : Nat := (checks.map (·.took)).foldl max 0

end Pool

end TxLoad
