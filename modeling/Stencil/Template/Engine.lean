import Stencil.Settings.Load
import Stencil.Template.Batch

/-!
# The engine

The operations on templates, bound to the policies of the settings.
-/

namespace Stencil

/-- Settings to work with templates by. -/
structure Engine where
  settings : TemplateSettings
  deriving DecidableEq, Repr

namespace Engine

/-- The engine of the default settings. -/
def default : Engine := ⟨.default⟩

instance : Inhabited Engine := ⟨.default⟩

/-- Makes an engine by the settings of the surroundings, and logs its policies. The settings are
    loaded anew, so their maps are gone through in orders of their own. -/
def load (around : Surroundings) (formats : Formats := .json) (orders : Orders := .backward) :
    Logged (Except ConfigError Engine × Surroundings) :=
  match Settings.load around formats orders with
  | (.error e, after) => return (.error e, after)
  | (.ok settings, after) => do
    Logged.tell
      (.engineConfigured settings.template.undefined settings.template.missingKeyFallback)
    return (.ok ⟨settings.template⟩, after)

/-- Makes a template from a document. -/
def compile (_ : Engine) (doc : Document) : Logged (Except TemplateError Template) :=
  Template.compile doc

/-- Makes a template from a JSON value. -/
def compileJson (_ : Engine) (value : Json) : Logged (Except TemplateError Template) :=
  Template.compileJson value

/-- Renders a template under the policy about variables that are not bound. -/
def render (engine : Engine) (template : Template) (bindings : Bindings) :
    Except TemplateError Rendered :=
  template.renderWith bindings engine.settings.undefined

/-- Renders all records of a batch under the policy about variables that are not bound. -/
def renderBatch (engine : Engine) (template : Template) (records : List Json) : Logged Batch :=
  template.renderBatch records engine.settings.undefined

/-- The view of a rendered document under the fallback scope. -/
def lookup (engine : Engine) (doc : Rendered) : View := .root doc engine.settings.missingKeyFallback

end Engine

end Stencil
