import Stencil.Json.Basic
import Stencil.Leaf.Scan
import Stencil.Leaf.Render
import Stencil.Path

/-!
# What can go wrong with a template

The causes of failure of all operations on templates, with one wording for each, and the code under
which each kind is reported.
-/

namespace Stencil

/-- What is wrong with the id of a template. -/
inductive IdFault where
  /-- The id is empty or too long. -/
  | size
  /-- The id has a character that ids may not have. -/
  | character
  deriving DecidableEq, Repr

namespace IdFault

def message : IdFault → String
  | .size => "ID must be 1-64 characters"
  | .character => "ID must contain only alphanumeric, dash, or underscore"

end IdFault

/-- Why an operation on templates failed. -/
inductive TemplateError where
  /-- A node that is no text, sequence or mapping. -/
  | unsupportedShape (path : Path) (found : Kind)
  /-- A leaf that is not well formed. -/
  | malformedLeaf (path : Path) (error : SyntaxError)
  /-- A variable that is not bound, under the strict policy. -/
  | unbound (path : Path) (unresolved : VarPath)
  /-- Bindings that are no object. -/
  | invalidBindings (found : Kind)
  | notFound (id : String)
  | alreadyExists (id : String)
  | invalidId (fault : IdFault)
  deriving DecidableEq, Repr

namespace TemplateError

/-- The wording of an error. -/
def message : TemplateError → String
  | .unsupportedShape path found =>
    "Unsupported template node at " ++ path.text ++ ": expected string, array or object, found "
      ++ found.name
  | .malformedLeaf path e =>
    "Template syntax error at " ++ path.text ++ " (offset "
      ++ String.ofList (Decimal.digits e.offset) ++ "): " ++ e.fault.message
  | .unbound path x => "Render failed at " ++ path.text ++ ": " ++ x.unboundMessage
  | .invalidBindings found => "Bindings must be an object, found " ++ found.name
  | .notFound id => "Template not found: " ++ id
  | .alreadyExists id => "Template already exists: " ++ id
  | .invalidId fault => "Invalid template ID: " ++ fault.message

/-- The code of the kind of error. -/
def code : TemplateError → String
  | .unsupportedShape .. => "UNSUPPORTED_SHAPE"
  | .malformedLeaf .. => "TEMPLATE_SYNTAX"
  | .unbound .. => "RENDER_ERROR"
  | .invalidBindings _ => "INVALID_BINDINGS"
  | .notFound _ => "NOT_FOUND"
  | .alreadyExists _ => "ALREADY_EXISTS"
  | .invalidId _ => "INVALID_ID"

/-- The wording of an error among errors of other areas. -/
def reportedMessage (e : TemplateError) : String := "Template error: " ++ e.message

/-- The path of the node at fault, for an error about one node. -/
def path? : TemplateError → Option Path
  | .unsupportedShape path _ | .malformedLeaf path _ | .unbound path _ => some path
  | _ => none

end TemplateError

end Stencil
