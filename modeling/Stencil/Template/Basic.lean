import Stencil.Document
import Stencil.Log.Logged

/-!
# Templates

A template is a document whose leaves were read for variables. Making one fails at the first leaf in
document order that is malformed; rendering keeps the shape of the document and works leaf by leaf.
-/

namespace Stencil

/-- A tree of leaves that were read for variables. -/
abbrev Template := Tree Leaf

namespace Template

/-- Reads every leaf of a document. -/
def ofDocument (doc : Document) : Except TemplateError Template :=
  doc.traverse (fun path text => (Leaf.parse text).mapError (.malformedLeaf path)) []

/-- Makes a template from a document, and logs that it did. -/
def compile (doc : Document) : Logged (Except TemplateError Template) :=
  match ofDocument doc with
  | .error e => return .error e
  | .ok template => do
    Logged.tell (.templateCompiled template.leafCount)
    return .ok template

/-- Makes a template from a JSON value. The shape of the whole value is checked before the first
    leaf is read. -/
def compileJson (value : Json) : Logged (Except TemplateError Template) :=
  match Document.ofJson value with
  | .error e => return .error e
  | .ok doc => compile doc

/-- The names of all bindings that the template refers to, each once, in increasing order. -/
def bindingNames (template : Template) : List String :=
  let roots := template.leaves.flatMap fun leaf => leaf.varPaths.map VarPath.root
  Members.keys (Members.ofPairs (roots.map fun root => (root, ())))

/-- Renders every leaf, with empty text for variables that are not bound. -/
def render (template : Template) (bindings : Bindings) : Rendered :=
  template.mapLeaves (Leaf.render · bindings)

/-- Renders every leaf, or fails at the first one with a variable that is not bound. -/
def renderStrict (template : Template) (bindings : Bindings) : Except TemplateError Rendered :=
  template.traverse (fun path leaf => (leaf.renderStrict bindings).mapError (.unbound path)) []

/-- Renders under a policy about variables that are not bound. -/
def renderWith (template : Template) (bindings : Bindings) :
    Undefined → Except TemplateError Rendered
  | .lenient => .ok (template.render bindings)
  | .strict => template.renderStrict bindings

end Template

namespace Bindings

/-- The bindings of a JSON value, which has to be an object. -/
def ofJson : Json → Except TemplateError Bindings
  | .obj members => .ok members
  | value => .error (.invalidBindings value.kind)

end Bindings

end Stencil
