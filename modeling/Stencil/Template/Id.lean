import Stencil.Template.Error
import Stencil.Text.Alphanumeric

/-!
# Template ids

A template is stored under an id: at most 64 bytes of alphanumeric characters, dashes and
underscores, and not empty.
-/

namespace Stencil.TemplateId

/-- Whether `c` may stand in an id. -/
def isIdChar (c : Char) : Bool := Text.isAlphanumeric c || c = '-' || c = '_'

/-- The greatest size of an id, in UTF-8 bytes. -/
def maxSize : Nat := 64

/-- Checks an id, its size first. -/
def validate (id : String) : Except TemplateError Unit :=
  if id.isEmpty || maxSize < id.utf8ByteSize then .error (.invalidId .size)
  else if id.toList.all isIdChar then .ok ()
  else .error (.invalidId .character)

end Stencil.TemplateId
