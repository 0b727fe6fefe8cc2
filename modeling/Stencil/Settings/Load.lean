import Stencil.Json.Reader
import Stencil.Settings.DotEnv
import Stencil.Settings.Extract
import Stencil.Settings.MapOrder

/-!
# Loading the settings

The settings of a process come from four layers, each on top of the one before: the defaults, the
file `config/default`, the file of the run mode, and the environment variables. Before that, the
file `.env` sets variables that have no value yet.

Two things are left open, and are parameters. A file of settings need not be in JSON; which other
formats there are, and how they are read, does not matter here. And the maps that the settings are
made from can be gone through in any order, in another one each time.
-/

namespace Stencil

namespace Layers

/-- The layer of the defaults. -/
def defaults : Members ConfigValue :=
  let plain (value : Scalar) : ConfigValue := .scalar value none
  [("template.undefined", plain (.string Settings.default.template.undefined.name)),
    ("template.missing_key_fallback",
      plain (.string Settings.default.template.missingKeyFallback.name)),
    ("log.level", plain (.string Settings.default.log.level)),
    ("log.json", plain (.boolean Settings.default.log.json))]

/-- The ending of a file of settings in JSON. -/
def fileEnding : String := ".json"

end Layers

/-- A file of settings: the ending that tells its format, the path to it, and its text. -/
structure SettingsFile where
  ending : String
  path : FilePath
  text : String
  deriving DecidableEq, Repr

/-- The formats of files of settings: the endings that files are known by, in the order in which
    they are tried, and what files with another ending than that of JSON are read as. -/
structure Formats where
  endings : List String
  readOther : SettingsFile → Option (Members ConfigValue)
  json_mem : Layers.fileEnding ∈ endings

namespace Formats

/-- JSON and nothing else. -/
def json : Formats := ⟨[Layers.fileEnding], fun _ => none, List.mem_singleton_self _⟩

instance : Inhabited Formats := ⟨json⟩

/-- The members of the object that a file in JSON holds. -/
def readJson (file : SettingsFile) : Option (Members ConfigValue) :=
  match Json.ofText? file.text with
  | some (.obj members) => some (ConfigValue.ofMembers file.path.text members)
  | _ => none

/-- Reads a file in the format that its ending tells. -/
def read (formats : Formats) (file : SettingsFile) : Option (Members ConfigValue) :=
  if file.ending = Layers.fileEnding then readJson file else formats.readOther file

end Formats

namespace Layers

/-- The file that a path stands for: the file at the path if there is one, or else the first one
    with an ending added. A file at the path that has an ending of no format stands in the way. -/
def locate? (formats : Formats) (files : Files) (path : FilePath) : Option SettingsFile :=
  match files.read? path with
  | some text => do
    let ending ← path.ending?
    if ending ∈ formats.endings then return ⟨ending, path, text⟩ else none
  | none =>
    formats.endings.findSome? fun ending => do
      let path ← path.withEnding? ending
      return ⟨ending, path, ← files.read? path⟩

/-- The layer of a file; a missing file is an empty layer. -/
def ofFile (formats : Formats) (files : Files) (path : FilePath) :
    Except ConfigError (Members ConfigValue) :=
  match locate? formats files path with
  | none => .ok []
  | some file =>
    match formats.read file with
    | some layer => .ok layer
    | none => .error .unreadableFile

/-- The value of a variable: a boolean or a number if it is written as one, or else a text. -/
def scalar (text : String) : Scalar :=
  let lower := Text.lowercase text
  if lower = "true" then .boolean true
  else if lower = "false" then .boolean false
  else match Decimal.readInteger? text.toList with
    | some n =>
      if Decimal.isSignedWord n then .integer n
      else .float (Decimal.Binary64.ofDecimal (n < 0) n.natAbs 0)
    | none =>
      match Decimal.readBinary64? text.toList with
      | some x => .float x
      | none => .string text

/-- What the names of variables for settings start with, in lower case. -/
def variableStart : String := "mailroom__"

/-- Replaces every two underscores by a point, from left to right. -/
def pointed : List Char → List Char
  | '_' :: '_' :: cs => '.' :: pointed cs
  | c :: cs => c :: pointed cs
  | [] => []

/-- The key of the setting that a variable stands for. -/
def variableKey? (name : String) : Option String :=
  let lower := (Text.lowercase name).toList
  if variableStart.toList.isPrefixOf lower then
    some (String.ofList (pointed (lower.drop variableStart.length)))
  else none

/-- The layer of the environment variables. Of two variables for one setting, the one that was set
    last counts. -/
def ofVariables (env : Variables) : Members ConfigValue :=
  Members.ofPairs (env.filterMap fun (name, text) =>
    (variableKey? name).map fun key => (key, .scalar (scalar text) (some "the environment")))

/-- The run mode that a process has unless a variable says otherwise. -/
def defaultRunMode : String := "development"

/-- All layers, the first at the bottom, each in the order in which it is gone through. -/
def all (around : Surroundings) (formats : Formats) (orders : Orders) :
    Except ConfigError (List (Members ConfigValue)) := do
  let runMode := (around.env.lookup "RUN_MODE").getD defaultRunMode
  let base ← ofFile formats around.files (FilePath.ofText "config/default")
  let mode ← ofFile formats around.files (FilePath.ofText ("config/" ++ runMode))
  return [orders.defaults.layer defaults, orders.base.layer base, orders.mode.layer mode,
    orders.environment.layer (ofVariables around.env)]

/-- The layers put on top of each other. -/
def merge (layers : List (Members ConfigValue)) : ConfigValue :=
  layers.foldl (fun merged layer => merged.overlay layer) .emptyTable

end Layers

namespace Surroundings

/-- The surroundings after the file `.env` was applied to them. -/
def withDotEnv (around : Surroundings) : Surroundings :=
  match around.files.lookup ".env" with
  | some text => { around with env := DotEnv.apply around.env text }
  | none => around

end Surroundings

/-- Loads the settings, and returns the surroundings that it leaves behind. -/
def Settings.load (around : Surroundings) (formats : Formats := .json)
    (orders : Orders := .forward) : Except ConfigError Settings × Surroundings :=
  let around := around.withDotEnv
  ((Layers.all around formats orders).bind fun layers =>
    Extract.settings ((Layers.merge layers).arranged orders.merged []), around)

end Stencil
