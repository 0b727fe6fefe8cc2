import Stencil.Files

/-!
# Surroundings

What a process finds around it when it starts: environment variables and files.
-/

namespace Stencil

/-- Environment variables by name, in the order in which they were set. -/
abbrev Variables := List (String × String)

/-- Environment variables and files. -/
structure Surroundings where
  env : Variables
  files : Files
  deriving DecidableEq, Repr

end Stencil
