import TxLoad.Dispatch.Run.Basic

/-!
# The admission loop

The loop takes a slot, admits a dispatch, and looks whether the count is reached or the throughput used up. When it is
done it waits for every dispatch, then for every verdict, and returns the summary. A fatal failure ends it wherever
it stands.

`Run.resume` is one step of the loop, `Run.mainReady` whether the loop has one to take.
-/

namespace TxLoad.Dispatch.Run

/-- What is said when every dispatch is over. -/
def sendingDoneLog (r : Run) : Log.Entry :=
  ⟨"dispatch", .info, "Finished sending transactions, awaiting block inclusion",
    [("submitted", .number r.context.counters.submitted)]⟩

/-- What is said at the end. -/
def finishedLog (s : Setup) (summary : Summary) : Log.Entry :=
  ⟨"dispatch", .info, "Scenario finished", [
    ("scenario", .text s.scenario.name),
    ("submitted", .number summary.submitted),
    ("confirmed", .number summary.confirmed),
    ("elapsed_ms", .number summary.elapsed)]⟩

/-- Returns with the summary. -/
def conclude (s : Setup) (r : Run) : Run :=
  let summary := r.context.summary r.now
  { r.say (finishedLog s summary) with main := .returned (.ok summary) }

/-- Returns with the first fatal failure; a loop that waits for a slot gives up waiting. -/
def abort (r : Run) (e : Failure) : Run :=
  { r with
    main := .returned (.error e)
    context := { r.context with gate := r.context.gate.giveUp, fatal := r.context.fatal.take } }

/-- Where the loop goes on after it looked at the throughput. -/
def paced (s : Setup) (r : Run) : Main := if r.isAhead s then .pacing (r.now + pollInterval) else .acquiring

/-- Admits the next dispatch into the slot that was taken from `gate`. -/
def beginDispatch (s : Setup) (r : Run) (gate : Gate) : Run :=
  let r := { r with context := { r.context with gate := gate }.begin, jobs := r.jobs.push .admitted }
  { r with main := if r.isComplete s then .joining else r.paced s }

/-- One step of the loop when there is no fatal failure. -/
def advance (s : Setup) (r : Run) : Run :=
  match r.main with
  | .acquiring =>
    match r.context.gate.take? with
    | some gate => r.beginDispatch s gate
    | none => { r with main := .waiting, context := { r.context with gate := r.context.gate.wait } }
  | .waiting =>
    match r.context.gate.receive? with
    | some gate => r.beginDispatch s gate
    | none => r
  | .pacing till => if till ≤ r.now then { r with main := r.paced s } else r
  | .joining => if r.anyDispatching then r else { r.say r.sendingDoneLog with main := .confirming }
  | .confirming => if r.anyTracking then r else r.conclude s
  | .returned _ => r

/-- One step of the loop. -/
def resume (s : Setup) (r : Run) : Run :=
  match r.main, r.context.fatal.first with
  | .returned _, _ => r
  | _, some e => r.abort e
  | _, none => r.advance s

/-- Whether the loop has a step to take. -/
def mainReady (r : Run) : Bool :=
  match r.main, r.context.fatal.first with
  | .returned _, _ => false
  | _, some _ => true
  | .acquiring, none => true
  | .waiting, none => r.context.gate.handed
  | .pacing till, none => till ≤ r.now
  | .joining, none => !r.anyDispatching
  | .confirming, none => !r.anyTracking

end TxLoad.Dispatch.Run
