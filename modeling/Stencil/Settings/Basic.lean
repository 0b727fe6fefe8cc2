import Stencil.Rendered
import Stencil.Leaf.Render

/-!
# Settings

The settings of the library: two policies for templates, and the filter and line format of the log.
-/

namespace Stencil

/-- The policies for templates. -/
structure TemplateSettings where
  undefined : Undefined
  missingKeyFallback : FallbackScope
  deriving DecidableEq, Repr

/-- The settings of the log. -/
structure LogSettings where
  /-- The filter directives in force when the environment gives none. -/
  level : String
  /-- Whether log lines are JSON objects. -/
  json : Bool
  deriving DecidableEq, Repr

structure Settings where
  template : TemplateSettings
  log : LogSettings
  deriving DecidableEq, Repr

/-- Lenient, with a fallback for keys of the root. -/
def TemplateSettings.default : TemplateSettings := ⟨.lenient, .topLevel⟩

/-- Events from `info` on, as text. -/
def LogSettings.default : LogSettings := ⟨"info", false⟩

def Settings.default : Settings := ⟨.default, .default⟩

instance : Inhabited TemplateSettings := ⟨.default⟩

instance : Inhabited LogSettings := ⟨.default⟩

instance : Inhabited Settings := ⟨.default⟩

/-- The words for the policies about variables that are not bound. -/
def Undefined.choices : Members Undefined := [("lenient", .lenient), ("strict", .strict)]

/-- The words for the scopes. -/
def FallbackScope.choices : Members FallbackScope :=
  [("top_level", .topLevel), ("all_depths", .allDepths), ("disabled", .disabled)]

def Undefined.name : Undefined → String
  | .lenient => "lenient"
  | .strict => "strict"

def FallbackScope.name : FallbackScope → String
  | .topLevel => "top_level"
  | .allDepths => "all_depths"
  | .disabled => "disabled"

theorem Undefined.lookup_name (u : Undefined) : Undefined.choices.lookup u.name = some u := by
  cases u <;> rfl

theorem FallbackScope.lookup_name (s : FallbackScope) :
    FallbackScope.choices.lookup s.name = some s := by
  cases s <;> rfl

end Stencil
