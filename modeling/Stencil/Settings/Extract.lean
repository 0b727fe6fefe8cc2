import Stencil.Settings.Config
import Stencil.Settings.Decode

/-!
# Settings from layers

The settings that the merged layers amount to. Values are converted where they can be: a number or a
boolean is a text, a number or a word is a boolean, and the word for a choice may be in any case. A
value that cannot be converted is an error that says where it came from. The first such value that
is met counts.
-/

namespace Stencil

/-- Why there are no settings. -/
inductive ConfigError where
  /-- A configuration file is no JSON object. -/
  | unreadableFile
  /-- A value that cannot be converted, its key, and the place it came from. -/
  | wrongType (found : Found) (expected : Expected) (key : String) (origin : Option String)
  /-- A word that stands for no choice of a setting. -/
  | unknownChoice (setting word : String)
  /-- A choice given by neither a word nor a table with one key. -/
  | noChoice (setting : String)
  /-- A value where a table should stand. -/
  | noTable (found : Found) (expected : Expected)
  deriving DecidableEq, Repr

namespace ConfigError

/-- The group of errors that an error is reported under. -/
def kind : ConfigError → String
  | .unreadableFile => "FileParse"
  | .wrongType .. => "Type"
  | .unknownChoice .. | .noChoice _ | .noTable .. => "Message"

/-- What an error says, if it says more than that there is one. -/
def detail? : ConfigError → Option String
  | .unreadableFile => none
  | .wrongType found expected key origin =>
    let place := match origin with
      | some origin => " in " ++ origin
      | none => ""
    some ("invalid type: " ++ found.text "unit value" .pointed ++ ", expected " ++ expected.text
      ++ " for key `" ++ key ++ "`" ++ place)
  | .unknownChoice setting word =>
    some ("enum " ++ setting ++ " does not have variant constructor " ++ word)
  | .noChoice setting =>
    some ("value of enum " ++ setting
      ++ " should be represented by either string or table with exactly one key")
  | .noTable found expected =>
    some ("invalid type: " ++ found.text "unit value" .pointed ++ ", expected " ++ expected.text)

/-- The wording of an error among errors of other areas. -/
def reportedMessage (e : ConfigError) : String :=
  match e.detail? with
  | some detail => "Configuration error: " ++ detail
  | none => "Configuration error"

def code (_ : ConfigError) : String := "CONFIG_ERROR"

end ConfigError

/-- What was found when a value cannot be converted. -/
def ConfigValue.found : ConfigValue → Found
  | .scalar .null _ => .null
  | .scalar (.boolean b) _ => .boolean b
  | .scalar (.integer n) _ => .integer n
  | .scalar (.float x) _ => .float x
  | .scalar (.string s) _ => .string s
  | .list .. => .sequence
  | .table .. => .map

namespace Extract

/-- A value as a text. -/
def string (key : String) (value : ConfigValue) : Except ConfigError String :=
  match value with
  | .scalar (.string s) _ => .ok s
  | .scalar (.boolean b) _ => .ok (if b then "true" else "false")
  | .scalar (.integer n) _ => .ok (String.ofList (Decimal.integer n))
  | .scalar (.float x) _ => .ok (String.ofList (Decimal.Layout.plain.text x))
  | value => .error (.wrongType value.found .string key value.origin)

/-- The words for the two booleans, in lower case. -/
def booleanWords : List (String × Bool) :=
  [("1", true), ("true", true), ("on", true), ("yes", true),
    ("0", false), ("false", false), ("off", false), ("no", false)]

/-- A value as a boolean. Of a word that is none, the message shows the lower-case form. -/
def boolean (key : String) (value : ConfigValue) : Except ConfigError Bool :=
  match value with
  | .scalar (.boolean b) _ => .ok b
  | .scalar (.integer n) _ => .ok (n ≠ 0)
  | .scalar (.float x) _ => .ok (!x.isZero)
  | .scalar (.string s) origin =>
    let word := Text.lowercase s
    match booleanWords.lookup word with
    | some b => .ok b
    | none => .error (.wrongType (.string word) .boolean key origin)
  | value => .error (.wrongType value.found .boolean key value.origin)

/-- The choice of a setting with the given word, in any case. -/
def word {α : Type} (setting : String) (choices : Members α) (text : String) :
    Except ConfigError α :=
  match choices.lookup (Text.lowercase text) with
  | some choice => .ok choice
  | none => .error (.unknownChoice setting text)

/-- A value as a choice: the word for it, or a table with that word as its only key. -/
def choice {α : Type} (setting : String) (choices : Members α) (_key : String)
    (value : ConfigValue) : Except ConfigError α :=
  match value with
  | .scalar (.string text) _ => word setting choices text
  | .table [(text, _)] _ => word setting choices text
  | _ => .error (.noChoice setting)

/-- A part of a record: its name, and how to read its value, given the key of the value. -/
structure Part (α : Type) where
  name : String
  read : String → ConfigValue → Except ConfigError α

/-- The key of an item of a list. -/
def itemKey (key : String) (i : Nat) : String :=
  key ++ "[" ++ String.ofList (Decimal.digits i) ++ "]"

/-- The key of a member of a table; the outermost table has no key. -/
def memberKey (key name : String) : String := if key.isEmpty then name else key ++ "." ++ name

/-- A value that may be missing. -/
def optional {α : Type} (part : Part α) (key : String) (start : α) :
    Option ConfigValue → Except ConfigError α
  | some value => part.read key value
  | none => .ok start

/-- A part of a record in a table with a key. -/
def Part.field {α : Type} (part : Part α) (key : String) : Field ConfigValue ConfigError α :=
  ⟨part.name, part.read (memberKey key part.name)⟩

/-- A value as a record of two parts: a table with the parts under their names, or a list of the
    parts in order, further items not counting. A part that is missing has its default. -/
def record {α β : Type} (name : String) (first : Part α) (second : Part β) (start : α × β)
    (key : String) (value : ConfigValue) : Except ConfigError (α × β) :=
  match value with
  | .table members _ => Field.readMembers (first.field key) (second.field key) start members
  | .list items _ => do
    let a ← optional first (itemKey key 0) start.1 items[0]?
    let b ← optional second (itemKey key 1) start.2 items[1]?
    return (a, b)
  | value => .error (.noTable value.found (.record name))

def templateSettings (key : String) (value : ConfigValue) :
    Except ConfigError TemplateSettings :=
  (record "TemplateSettings" ⟨"undefined", choice "UndefinedBehavior" Undefined.choices⟩
    ⟨"missing_key_fallback", choice "FallbackScope" FallbackScope.choices⟩
    (TemplateSettings.default.undefined, TemplateSettings.default.missingKeyFallback) key
    value).map fun (undefined, fallback) => ⟨undefined, fallback⟩

def logSettings (key : String) (value : ConfigValue) : Except ConfigError LogSettings :=
  (record "LogConfig" ⟨"level", string⟩ ⟨"json", boolean⟩
    (LogSettings.default.level, LogSettings.default.json) key
    value).map fun (level, json) => ⟨level, json⟩

/-- The settings of the merged layers. -/
def settings (value : ConfigValue) : Except ConfigError Settings :=
  (record "Settings" ⟨"template", templateSettings⟩ ⟨"log", logSettings⟩
    (TemplateSettings.default, LogSettings.default) "" value).map
    fun (template, log) => ⟨template, log⟩

end Extract

end Stencil
