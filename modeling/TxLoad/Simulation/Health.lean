import TxLoad.Pool
import TxLoad.Schedule

/-!
# Health checks in a simulation

All endpoints are asked at once. `Net.checkAll` is how the checks end, and the network with the finished ones in its
journal, in the order in which they finish; a check that is cut off is no finished call.

`Net.checkOften` checks them on a schedule. The result of a check counts from the moment after its end on, as
`Pool.inspect` shows.
-/

namespace TxLoad.Network

namespace Net

/-- Asks the endpoints from `i` on whether they are well. -/
def askAll (n : Net) (i : Nat) : Nat → List (Answer Unit) × Net
  | 0 => ([], n)
  | count + 1 =>
    let (answer, n) := n.ask i Endpoint.check
    let (answers, n) := n.askAll (i + 1) count
    (answer :: answers, n)

/-- The answers that come in time, with the position of their endpoint, by the time at which they come. -/
def timely (limit : Nat) (answers : List (Answer Unit)) : List (Nat × Nat × Except Failure Unit) :=
  (answers.mapIdx fun i a => (i, a)).filterMap (fun (i, a) =>
    match a.result with
    | some result => if a.delay ≤ limit then some (a.delay, i, result) else none
    | none => none)
  |>.mergeSort fun a b => a.1 ≤ b.1

/-- How the checks of all endpoints end that begin at `now`, and the network afterwards. -/
def checkAll (n : Net) (limit now : Nat) : List Pool.Checkup × Net :=
  let (answers, n) := n.askAll 0 n.endpoints.size
  let checks := answers.mapIdx fun i a => Pool.checkup (n.name i) limit a
  let n := (timely limit answers).foldl (fun n (delay, i, result) => n.finish i (now + delay) (.checked result.isOk)) n
  (checks, n)

/-- The names of all endpoints. -/
def names (n : Net) : List String := n.endpoints.toList.map (·.name)

/-! ## On a schedule -/

/-- Checks that were made on a schedule: the network afterwards, and for each round the moment at which it was over
with its checks. -/
structure Rounds where
  net : Net
  done : List (Nat × List Pool.Checkup)

/-- One round of checks. -/
def round (limit : Nat) (r : Rounds) (time : Nat) : Schedule.Cycle × Rounds :=
  let (checks, net) := r.net.checkAll limit time
  let finish := time + Pool.duration checks
  let verdict := (Pool.report net.names checks).verdict checks.length
  (⟨time, finish, verdict.map fun _ => (), Pool.healthLog net.names checks⟩, ⟨net, r.done ++ [(finish, checks)]⟩)

/-- The name under which the checks are logged. -/
def healthTask : String := "health"

/-- Checks all endpoints on a schedule until the given moment: the rounds, and what was said. -/
def checkOften (n : Net) (schedule : Schedule) (limit now stop : Nat) : Rounds × List Log.Entry :=
  let (cycles, _, rounds) := schedule.play (round limit) now stop ⟨n, []⟩
  (rounds, schedule.playLog healthTask cycles)

end Net

end TxLoad.Network

namespace TxLoad.Pool

open Network (Net)

/-- What is seen of a pool at a moment: its good endpoints, and a few picks in turn. -/
structure View where
  good : List Nat
  picks : List (Except Failure Nat)

/-- Makes a few picks in turn. -/
def picks (p : Pool) : Nat → List (Except Failure Nat) × Pool
  | 0 => ([], p)
  | n + 1 =>
    let (pick, p) := p.select .inTurn 0 0
    let (rest, p) := p.picks n
    (pick :: rest, p)

/-- Looks at a pool at the given moments; the rounds of checks that were over before a moment count then. -/
def inspect (p : Pool) (rounds : List (Nat × List Checkup)) (count : Nat) : List Nat → List View
  | [] => []
  | moment :: moments =>
    let p := (rounds.takeWhile (·.1 < moment)).foldl (fun p round => p.refresh round.2) p
    let (picks, q) := p.picks count
    ⟨p.good, picks⟩ :: q.inspect (rounds.dropWhile (·.1 < moment)) count moments

end TxLoad.Pool
