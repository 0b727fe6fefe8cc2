import Stencil.Decimal.Digits

/-!
# Paths

The way from the root of a tree to one of its nodes: object keys and array positions. The text of a
path stands in error messages.
-/

namespace Stencil

/-- One step from a node to a child. -/
inductive Step where
  | key (name : String)
  | index (i : Nat)
  deriving DecidableEq, Repr

/-- The steps from the root of a tree to a node. -/
abbrev Path := List Step

namespace Step

/-- A step that follows another one. -/
def text : Step → String
  | .key name => "." ++ name
  | .index i => "[" ++ String.ofList (Decimal.digits i) ++ "]"

end Step

namespace Path

/-- The text of a path. A key at its start has no point in front. -/
def text : Path → String
  | [] => "<root>"
  | .key name :: steps => name ++ String.join (steps.map Step.text)
  | .index i :: steps => String.join ((Step.index i :: steps).map Step.text)

/-- Whether the path leads nowhere but to the root. -/
def isRoot (path : Path) : Bool := path.isEmpty

end Path

end Stencil
