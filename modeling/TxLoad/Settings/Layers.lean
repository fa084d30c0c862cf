import TxLoad.Settings.EnvFile
import TxLoad.Settings.Lenient
import TxLoad.Settings.Toml

/-!
# Where settings come from

Settings come from a file and from the environment; the environment wins, place by place.

- `Layer` is one source; `Layer.join` puts the later ones of several over the earlier ones;
- `Layer.Format` is a format of settings files; which formats there are, and in which order files are looked for, is
  given from outside;
- `Settings.load` finds the file, reads both sources, and takes the values leniently.
-/

namespace TxLoad

/-- One source of settings, with the name by which errors refer to it. -/
structure Layer where
  entries : List (String × Value)
  origin : String

namespace Layer

/-- Puts an entry of a source at the place that its name leads to. -/
def set (origin : String) (settings : List (String × Sourced)) (entry : String × Value) : List (String × Sourced) :=
  let place := Place.ofName entry.1
  Sourced.change place.root (Sourced.update (Sourced.put (.ofValue origin entry.2)) place.steps) settings

/-- The settings of several sources, the later ones put over the earlier ones. -/
def join (layers : List Layer) : List (String × Sourced) :=
  layers.foldl (fun settings l => l.entries.foldl (set l.origin) settings) []

/-- What the names of variables start with that are settings. -/
def variablePrefix : List Char := "loadgen_".toList

/-- The settings among the variables of an environment; the case of their names does not count. -/
def ofEnvironment (env : EnvFile.Environment) : Layer where
  entries := env.filterMap fun (name, value) =>
    (Text.dropLeading? variablePrefix (Text.lowercase name).toList).map fun rest => (.ofList rest, .text value)
  origin := "the environment"

/-- A format of settings files: what the names of its files end in, and how their texts are read; an error is told in
words. -/
structure Format where
  endings : List String
  read : String → Except String Value

/-- The format with a line for each entry. -/
def Format.toml : Format where
  endings := [".toml"]
  read text := ((Toml.parse text).map .table).mapError (·.message)

/-- The format with one document. -/
def Format.json : Format where
  endings := [".json"]
  read text := match Json.parse? text with
    | some v => .ok v
    | none => .error "invalid document"

/-- The formats that are read here. -/
def Format.known : List Format := [.toml, .json]

/-- A text without a byte order mark in front. -/
def withoutMark (text : String) : String := .ofList (EnvFile.withoutMark text.toList)

/-- Reads a settings file, which has to hold a table; an error is told in words. -/
def ofFile (name text : String) (format : Format) : Except String Layer :=
  match format.read (withoutMark text) with
  | .ok (.table entries) => .ok ⟨entries, name⟩
  | .ok v => .error ("invalid type: " ++ Lenient.describe v ++ ", expected a map in " ++ name ++ " in " ++ name)
  | .error message => .error (message ++ " in " ++ name)

end Layer

/-! ## Files -/

/-- Files by name, with their texts. -/
abbrev Files := List (String × String)

namespace Files

/-- The parts of a path that count; the first one of an absolute path is empty. -/
def pathParts (path : String) : List String :=
  let parts := (Text.splitOnAny (· = '/') path.toList).map String.ofList
  let counted := parts.filter fun part => part ≠ "" && part ≠ "."
  if path.startsWith "/" then "" :: counted else counted

/-- The file with the given parts of its path, with the path written without detours. -/
def at? (files : Files) (parts : List String) : Option (String × String) :=
  (files.find? fun f => pathParts f.1 = parts).map fun f => ("/".intercalate parts, f.2)

/-- Whether a path leads to a directory by its looks: it ends in nothing or a point behind a slash. -/
def isDirectory (path : String) : Bool := path.endsWith "/" || path.endsWith "/." || path = "" || path = "."

/-- The file at a path. -/
def read? (files : Files) (path : String) : Option (String × String) :=
  if isDirectory path then none else files.at? (pathParts path)

/-- The file at a path with an ending behind its last part. -/
def readWith? (files : Files) (path ending : String) : Option (String × String) :=
  match (pathParts path).reverse with
  | [] => none
  | last :: before => files.at? (before.reverse ++ [last ++ ending])

/-- The file of a name in a directory above the working directory, or in the working directory itself. -/
def above? (files : Files) (name : String) (steps : Nat) : Option (String × String) :=
  files.at? (List.replicate steps ".." ++ [name])

/-- How deep the path of a file goes at most. -/
def depth (files : Files) : Nat := files.foldr (fun f deepest => max (pathParts f.1).length deepest) 0

/-- The nearest file of a name: in the working directory, or else in the first directory above it that has one. -/
def nearest? (files : Files) (name : String) : Option (String × String) :=
  (List.range files.depth).findSome? (files.above? name)

/-- The format that the ending of a path names, the first one of several. -/
def format? (formats : List Layer.Format) (path : String) : Option Layer.Format :=
  let last := (pathParts path).getLast?.getD ""
  formats.find? fun format => format.endings.any fun ending => last.endsWith ending && ending.length < last.length

/-- The file that settings are read from: at the path itself, or with an ending behind it. -/
def settingsFile (formats : List Layer.Format) (files : Files) (path : String) :
    Except String (String × String × Layer.Format) :=
  match files.read? path with
  | some (name, text) =>
    match format? formats name with
    | some format => .ok (name, text, format)
    | none => .error ("configuration file \"" ++ name ++ "\" is not of a registered file format")
  | none =>
    let found := formats.findSome? fun format => format.endings.findSome? fun ending =>
      (files.readWith? path ending).map fun (name, text) => (name, text, format)
    match found with
    | some found => .ok found
    | none => .error ("configuration file \"" ++ path ++ "\" not found")

end Files

namespace Settings

/-- The layer of the settings file: at a given path there has to be one, without a path there may be one. -/
def fileLayers (formats : List Layer.Format) (files : Files) (path : Option String) : Except String (List Layer) :=
  match path, files.settingsFile formats (path.getD "config") with
  | _, .ok (name, text, format) => (Layer.ofFile name text format).map ([·])
  | some _, .error e => .error e
  | none, .error _ => .ok []

/-- The error of a value that cannot be taken. -/
def describeFault (name : String) (fault : Lenient.Fault) : String :=
  let behind := match fault.origin with
    | some origin => " in " ++ origin
    | none => ""
  fault.message ++ " for key \x60" ++ fault.place name ++ "\x60" ++ behind

/-- Reads settings from layers. -/
def ofLayers (layers : List Layer) : Except Failure Settings :=
  match Settings.read Lenient.dialect (Sourced.lookup (Layer.join layers)) with
  | .ok s => .ok s
  | .error (name, fault) => .error (.config (.source (describeFault name fault)))

/-- The environment with the variables of the nearest file `.env`. -/
def environment (files : Files) (env : EnvFile.Environment) : EnvFile.Environment :=
  match files.nearest? ".env" with
  | some (_, text) => EnvFile.extend env text
  | none => env

/-- Loads settings from the files, as they are called from the working directory, and the environment. -/
def load (formats : List Layer.Format) (files : Files) (env : EnvFile.Environment) (path : Option String) :
    Except Failure Settings :=
  match fileLayers formats files path with
  | .error e => .error (.config (.source e))
  | .ok layers => ofLayers (layers ++ [.ofEnvironment (environment files env)])

end Settings

end TxLoad
