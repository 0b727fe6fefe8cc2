import Stencil.Json.Printer
import Stencil.Settings.Basic
import Stencil.Settings.Record
import Stencil.Text.Quoted

/-!
# Settings from JSON

A record is an object with its fields under their names, or an array of its fields in order. A field
that is missing has its default, and keys that name no field are ignored. A choice is the word for
it, or an object with that word as its only key. The first error in the order of the object counts.
-/

namespace Stencil

/-- What was found where something else should stand. -/
inductive Found where
  | null
  | boolean (b : Bool)
  | integer (n : Int)
  | float (x : Decimal.Binary64)
  | string (s : String)
  | sequence
  | map
  deriving DecidableEq, Repr

namespace Found

def ofJson : Json → Found
  | .null => .null
  | .bool b => .boolean b
  | .num (.int n) => .integer n
  | .num (.float x) => .float x
  | .str s => .string s
  | .arr _ => .sequence
  | .obj _ => .map

/-- The words of a message for what was found, given the word for `null` and the layout of a
    number. -/
def text (nullWord : String) (layout : Decimal.Layout) : Found → String
  | .null => nullWord
  | .boolean b => "boolean `" ++ (if b then "true" else "false") ++ "`"
  | .integer n => "integer `" ++ String.ofList (Decimal.integer n) ++ "`"
  | .float x => "floating point `" ++ String.ofList (layout.text x) ++ "`"
  | .string s => "string " ++ Text.quoted s
  | .sequence => "sequence"
  | .map => "map"

end Found

/-- What should have stood where something else was found. -/
inductive Expected where
  | string
  | boolean
  /-- The word for a choice, or an object with that word as its key. -/
  | stringOrMap
  /-- Nothing beside the word for a choice. -/
  | unit
  | record (name : String)
  deriving DecidableEq, Repr

namespace Expected

def text : Expected → String
  | .string => "a string"
  | .boolean => "a boolean"
  | .stringOrMap => "string or map"
  | .unit => "unit"
  | .record name => "struct " ++ name

end Expected

/-- Why a JSON value gives no settings. -/
inductive DecodeError where
  | invalidType (found : Found) (expected : Expected)
  | unknownChoice (word : String) (choices : List String)
  /-- A choice given by an object that has not just one key. -/
  | notSingleKey
  /-- A record given by an array with more items than the record has fields. -/
  | tooManyItems (length : Nat)
  deriving DecidableEq, Repr

namespace DecodeError

/-- The words for a list of choices. -/
def choicesText (choices : List String) : String :=
  match choices.map fun word => "`" ++ word ++ "`" with
  | [a, b] => a ++ " or " ++ b
  | words => "one of " ++ ", ".intercalate words

def message : DecodeError → String
  | .invalidType found expected =>
    "invalid type: " ++ found.text "null" .interchange ++ ", expected " ++ expected.text
  | .unknownChoice word choices =>
    "unknown variant `" ++ word ++ "`, expected " ++ choicesText choices
  | .notSingleKey => "invalid value: map, expected map with a single key"
  | .tooManyItems length =>
    "invalid length " ++ String.ofList (Decimal.digits length)
      ++ ", expected fewer elements in array"

end DecodeError

namespace Decode

/-- The choice with the given word. -/
def word {α : Type} (choices : Members α) (text : String) : Except DecodeError α :=
  match choices.lookup text with
  | some choice => .ok choice
  | none => .error (.unknownChoice text choices.keys)

/-- A choice. -/
def choice {α : Type} (choices : Members α) : Json → Except DecodeError α
  | .str text => word choices text
  | .obj [(text, content)] => do
    let choice ← word choices text
    match content with
    | .null => return choice
    | content => throw (.invalidType (.ofJson content) .unit)
  | .obj _ => .error .notSingleKey
  | value => .error (.invalidType (.ofJson value) .stringOrMap)

def string : Json → Except DecodeError String
  | .str text => .ok text
  | value => .error (.invalidType (.ofJson value) .string)

def boolean : Json → Except DecodeError Bool
  | .bool b => .ok b
  | value => .error (.invalidType (.ofJson value) .boolean)

/-- A record of two fields, given its name and the defaults. -/
def record {α β : Type} (name : String) (first : Field Json DecodeError α)
    (second : Field Json DecodeError β) (start : α × β) : Json → Except DecodeError (α × β)
  | .obj members => Field.readMembers first second start members
  | .arr [] => .ok start
  | .arr [a] => return (← first.read a, start.2)
  | .arr (a :: b :: rest) => do
    let a ← first.read a
    let b ← second.read b
    if rest.isEmpty then return (a, b) else throw (.tooManyItems (rest.length + 2))
  | value => .error (.invalidType (.ofJson value) (.record name))

def undefined : Json → Except DecodeError Undefined := choice Undefined.choices

def fallbackScope : Json → Except DecodeError FallbackScope := choice FallbackScope.choices

def templateSettings (value : Json) : Except DecodeError TemplateSettings := do
  let (undefined, fallback) ← record "TemplateSettings" ⟨"undefined", undefined⟩
    ⟨"missing_key_fallback", fallbackScope⟩
    (TemplateSettings.default.undefined, TemplateSettings.default.missingKeyFallback) value
  return ⟨undefined, fallback⟩

def logSettings (value : Json) : Except DecodeError LogSettings := do
  let (level, json) ← record "LogConfig" ⟨"level", string⟩ ⟨"json", boolean⟩
    (LogSettings.default.level, LogSettings.default.json) value
  return ⟨level, json⟩

def settings (value : Json) : Except DecodeError Settings := do
  let (template, log) ← record "Settings" ⟨"template", templateSettings⟩ ⟨"log", logSettings⟩
    (TemplateSettings.default, LogSettings.default) value
  return ⟨template, log⟩

end Decode

end Stencil
