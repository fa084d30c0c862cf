import TxLoad.Program

/-!
# The command line program

Reads the arguments, the environment and the settings files, and reports what comes of them. The program has no
transport of its own, so every node counts as unreachable.
-/

namespace TxLoad.Program

/-- The variables of the environment that can matter: one per setting. -/
def variableNames : List String := Settings.names.map fun name => "LOADGEN_" ++ name.toUpper

/-- The paths of the files that can matter, given the path of the settings file and how many directories there are
above the working directory. -/
def paths (config : Option String) (directories : Nat) : List String :=
  let base := config.getD "config"
  let dotted := (List.range (directories + 1)).map fun steps => "/".intercalate (List.replicate steps ".." ++ [".env"])
  dotted ++ base :: Layer.Format.known.flatMap fun format => format.endings.map (base ++ ·)

/-- The environment, as far as it can matter. -/
def readEnvironment : IO EnvFile.Environment :=
  variableNames.filterMapM fun name => return (← IO.getEnv name).map (name, ·)

/-- The files that can matter and are there. -/
def readFiles (config : Option String) : IO Files := do
  let directories := (← IO.currentDir).components.length
  (paths config directories).filterMapM fun (path : String) => do
    try return some (path, ← IO.FS.readFile path)
    catch _ => return none

/-- The path of the settings file among arguments; arguments that cannot be read name none. -/
def configOf (args : List String) : Option String :=
  match CommandLine.parse args with
  | .ok given => CommandLine.configPath given
  | .error _ => none

/-- What a node says that cannot be reached. -/
def noTransport (n : Network.Node) : Except Network.RequestFault Unit := .error (.unreachable n.url)

end TxLoad.Program

/-- The program. -/
def main (args : List String) : IO UInt32 := do
  let env ← TxLoad.Program.readEnvironment
  let files ← TxLoad.Program.readFiles (TxLoad.Program.configOf args)
  match TxLoad.Program.begin TxLoad.Layer.Format.known args env files TxLoad.Program.noTransport with
  | .error stop =>
    unless stop.message.isEmpty do IO.eprintln stop.message
    return stop.code.toUInt32
  | .ok _ => return 0
