import Stencil.Text.Split
import Stencil.Decimal.Digits

/-!
# Leaves of a template

A leaf is a text with variables in it: a list of segments, each a literal text or a variable path.
-/

namespace Stencil

/-- A reference to a value: the name of a binding, and steps into it. -/
structure VarPath where
  root : String
  steps : List String
  deriving DecidableEq, Repr

namespace VarPath

/-- The parts of the path, the name of the binding first. -/
def parts (path : VarPath) : List String := path.root :: path.steps

/-- The parts with points between them. -/
def text (path : VarPath) : String := ".".intercalate path.parts

/-- Whether `c` may start a name. -/
def isNameStart (c : Char) : Bool := c.isAlpha || c = '_'

/-- Whether `c` may stand in a name after its start. -/
def isNamePart (c : Char) : Bool := c.isAlphanum || c = '_'

/-- Whether a text is a name: ASCII letters, digits and underscores, with no digit in front. -/
def isName : List Char → Bool
  | [] => false
  | c :: cs => isNameStart c && cs.all isNamePart

/-- Whether a text is a position: one or more of the digits `0` to `9`. -/
def isIndex (cs : List Char) : Bool := !cs.isEmpty && cs.all Decimal.isDigit

/-- Reads a path: parts with points between them, the first a name and each other one a name or a
    position. -/
def ofText? (cs : List Char) : Option VarPath :=
  match Text.split '.' cs with
  | [] => none
  | root :: steps =>
    if isName root && steps.all (fun step => isName step || isIndex step) then
      some ⟨String.ofList root, steps.map String.ofList⟩
    else none

end VarPath

/-- A piece of a leaf. -/
inductive Segment where
  | literal (text : String)
  | placeholder (path : VarPath)
  deriving DecidableEq, Repr

namespace Segment

/-- The path of a variable. -/
def path? : Segment → Option VarPath
  | .literal _ => none
  | .placeholder path => some path

/-- The size in bytes of a literal text; variables do not count. -/
def literalSize : Segment → Nat
  | .literal text => text.utf8ByteSize
  | .placeholder _ => 0

/-- The size in bytes of all literal text of several segments. -/
def totalSize : List Segment → Nat
  | [] => 0
  | segment :: segments => segment.literalSize + totalSize segments

end Segment

/-- The text of one leaf, divided into segments. -/
structure Leaf where
  segments : List Segment
  /-- The size in bytes of all literal text together, below which no rendered text falls. -/
  literalSize : Nat
  literalSize_eq : literalSize = Segment.totalSize segments
  deriving DecidableEq

namespace Leaf

/-- The leaf with the given segments. -/
def ofSegments (segments : List Segment) : Leaf :=
  ⟨segments, Segment.totalSize segments, rfl⟩

/-- The paths of the variables, in order of appearance. -/
def varPaths (leaf : Leaf) : List VarPath := leaf.segments.filterMap Segment.path?

/-- Whether the leaf has no variables. -/
def isLiteral (leaf : Leaf) : Bool := leaf.varPaths.isEmpty

theorem ext_segments {l₁ l₂ : Leaf} (h : l₁.segments = l₂.segments) : l₁ = l₂ := by
  obtain ⟨s₁, n₁, h₁⟩ := l₁
  obtain ⟨s₂, n₂, h₂⟩ := l₂
  obtain rfl : s₁ = s₂ := h
  obtain rfl : n₁ = n₂ := h₁.trans h₂.symm
  rfl

end Leaf

end Stencil
