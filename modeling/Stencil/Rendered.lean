import Stencil.Tree

/-!
# Rendered documents

The result of rendering, and reading it by keys. A `View` stands at a node, or at a missing key that
reads as empty text; the scope says on which levels a missing key does.
-/

namespace Stencil

/-- A tree of texts. -/
abbrev Rendered := Tree String

/-- On which levels a missing key reads as empty text. -/
inductive FallbackScope where
  /-- For keys of the root only. -/
  | topLevel
  | allDepths
  | disabled
  deriving DecidableEq, Repr, Inhabited

namespace FallbackScope

/-- Whether a key missing `depth` levels below the root reads as empty text. -/
def covers (scope : FallbackScope) (depth : Nat) : Bool :=
  match scope with
  | .topLevel => depth = 0
  | .allDepths => true
  | .disabled => false

end FallbackScope

namespace Rendered

/-- The text of a top-level key; a missing key and a child that is no text read as empty text,
    whatever the scope is. -/
def field (doc : Rendered) (key : String) : String :=
  ((doc.child? key).bind Tree.leaf?).getD ""

end Rendered

/-- A place in a rendered document. -/
structure View where
  /-- The node of the view, `none` at a missing key. -/
  node : Option Rendered
  scope : FallbackScope
  /-- The number of keys between the root and the view. -/
  depth : Nat

namespace View

/-- The view of a whole document. -/
def root (doc : Rendered) (scope : FallbackScope) : View := ⟨some doc, scope, 0⟩

/-- The view at `key` below this one. It is a view of nothing if the key is missing and the scope
    covers this depth, and there is none if the scope does not. -/
def get? (view : View) (key : String) : Option View :=
  match view.node.bind (Tree.child? key) with
  | some child => some ⟨some child, view.scope, view.depth + 1⟩
  | none =>
    if view.scope.covers view.depth then some ⟨none, view.scope, view.depth + 1⟩ else none

/-- The text of a leaf, empty text at a missing key, nothing for sequences and mappings. -/
def text? (view : View) : Option String :=
  match view.node with
  | some node => node.leaf?
  | none => some ""

/-- The text of the view at `key`. -/
def textAt? (view : View) (key : String) : Option String := (view.get? key).bind text?

/-- Whether the view stands at a missing key. -/
def isDefaulted (view : View) : Bool := view.node.isNone

/-- The view below a path of keys. -/
def walk? : List String → View → Option View
  | [], view => some view
  | key :: keys, view => (view.get? key).bind (walk? keys)

end View

end Stencil
