import TxLoad.Log.Filter
import TxLoad.Network.Node
import TxLoad.Dispatch.Context
import TxLoad.Dispatch.Path
import TxLoad.Pool
import TxLoad.Settings.CommandLine
import TxLoad.Settings.Layers
import TxLoad.Wallet.Registry

/-!
# The program

What happens between the call of the program and its run, and what is said at the end.

- `Program.configure` takes arguments, environment and files to checked settings and named nodes;
- `Program.begin` goes on until the nodes have told how they are: without a good one there is no run;
- `Program.workload` and `Program.path` are what a run needs besides: scenario, accounts, and where transactions go;
- `Exit` is how the program ends when it does not come that far.
-/

namespace TxLoad

/-- How the program ends before a run, or with a failed one. -/
inductive Exit where
  | stopped (s : CommandLine.Stop)
  | failed (e : Failure)

/-- The exit code: two for arguments that cannot be read, one for failures. -/
def Exit.code : Exit → Nat
  | .stopped s => if s.isError then 2 else 0
  | .failed _ => 1

/-- What stands on the error output. -/
def Exit.message : Exit → String
  | .stopped s => s.message
  | .failed e => "Error: " ++ e.detailed

/-- The first line of a text, without its end. -/
def firstLine (s : String) : String :=
  match s.toList.span (· ≠ '\n') with
  | (line, []) => .ofList line
  | (line, _) => .ofList ((Text.dropSuffix? ['\r'] line).getD line)

/-- The first line on the error output. -/
def Exit.line (e : Exit) : String := firstLine e.message

namespace Program

open Network (Node RequestFault)

/-! ## Before the run -/

/-- The failure of a log that is set up twice. -/
def logIsSet : Failure :=
  .initialization "Logger already set: a global default trace dispatcher has already been set"

/-- Sets up the log at a level, unless the level cannot be read or the log is set up already. -/
def setUpLog (level : String) (isSet : Bool) : Except Failure Unit :=
  let spec := Log.Filter.spec level
  match Log.Filter.parse spec with
  | .ok _ => if isSet then .error logIsSet else .ok ()
  | .error fault => .error (.config (.badLogFilter spec fault))

/-- The settings of a call, with the arguments on top of files and environment. -/
def settings (formats : List Layer.Format) (args : List String) (env : EnvFile.Environment) (files : Files) :
    Except Exit Settings := do
  let given ← (CommandLine.parse args).mapError .stopped
  let base ← (Settings.load formats files env (CommandLine.configPath given)).mapError .failed
  return CommandLine.apply given base

/-- Checked settings, and the nodes that they name. -/
structure Configured where
  settings : Settings
  nodes : List Node

/-- Checks settings and names the nodes. -/
def check (s : Settings) : Except Failure Configured := do
  setUpLog s.level false
  s.validate
  let nodes ← Node.ofUrls s.rpcHosts s.receiptPoll
  return ⟨s, nodes⟩

/-- The checked settings of a call. -/
def configure (formats : List Layer.Format) (args : List String) (env : EnvFile.Environment) (files : Files) :
    Except Exit Configured := do
  (check (← settings formats args env files)).mapError .failed

/-- The nodes of a run and how they are. -/
structure Begun where
  configured : Configured
  pool : Pool
  report : Pool.HealthReport

/-- Asks all nodes how they are; without a good one there is no run. -/
def checkNodes (c : Configured) (ask : Node → Except RequestFault Unit) : Except Failure Begun := do
  let pool ← Pool.ofTotal c.nodes.length
  let checks := c.nodes.map fun n => Pool.Checkup.mk 0 ((ask n).mapError (Node.failure n.healthWanted))
  let report ← (Pool.report (c.nodes.map (·.name)) checks).verdict pool.total
  return ⟨c, pool.refresh checks, report⟩

/-- Goes on until the nodes have told how they are; `ask` is what a node says. -/
def begin (formats : List Layer.Format) (args : List String) (env : EnvFile.Environment) (files : Files)
    (ask : Node → Except RequestFault Unit) : Except Exit Begun := do
  (checkNodes (← configure formats args env files) ask).mapError .failed

/-! ## What a run needs -/

/-- The scenario of a run, and its accounts. -/
structure Workload where
  scenario : Scenario
  registry : Registry

/-- The scenario and the accounts on a chain. -/
def workload (s : Settings) (chainId : Nat) : Except Failure Workload := do
  let scenario ← s.scenarioNamed s.scenario
  let key ← s.fundingKey
  let registry ← Registry.derive key chainId s.walletSeed s.walletCount
  return ⟨scenario, registry⟩

/-- Where the transactions go. -/
def path (s : Settings) : Except Failure Dispatch.Path :=
  if s.sendViaRelay then (Relay.ofAddress s.relayUrl s.rollupId).map .relay else .ok .direct

/-! ## What is said -/

/-- What is said when scenario and accounts are ready. -/
def setupLog (chainId : Nat) (c : Workload) : Log.Entry :=
  ⟨"config", .info, "Setup complete", [
    ("chain_id", .number chainId),
    ("scenario", .text c.scenario.name),
    ("wallets", .number c.registry.workers.size),
    ("root", .text c.registry.funding.address.checksummed),
    ("root_balance", .text (Wei.ether c.registry.funding.balance))]⟩

/-- What is said after a run. -/
def summaryLog (s : Dispatch.Summary) : Log.Entry :=
  ⟨"dispatch", .info, "Run summary", [
    ("dispatched", .number s.dispatched),
    ("submitted", .number s.submitted),
    ("failed", .number s.failed),
    ("confirmed", .number s.confirmed),
    ("reverted", .number s.reverted),
    ("watch_errors", .number s.watchErrors),
    ("fees_eth", .text (Wei.ether s.feesPaid)),
    ("elapsed_secs", .number (s.elapsed / 1000))]⟩

/-- What is said after a failed run. -/
def abortLog (e : Failure) : Log.Entry :=
  ⟨"dispatch", .error, "Run aborted", [("error", .text e.message), ("fatal", .flag e.isFatal)]⟩

end Program

end TxLoad
