import Stencil.Decimal.Reader
import Stencil.Json.Printer
import Stencil.Leaf.Basic

/-!
# Rendering a leaf

A variable path is resolved in the bindings step by step and replaced by the text of the value it
leads to. A path that leads nowhere is empty text under the lenient policy and an error under the
strict one.
-/

namespace Stencil

/-- The values that templates are rendered with: an object's members. -/
abbrev Bindings := Members Json

/-- What to do with a variable that is not bound. -/
inductive Undefined where
  /-- Render it as empty text. -/
  | lenient
  /-- Fail. -/
  | strict
  deriving DecidableEq, Repr, Inhabited

/-- The value that one step of a path leads to: a member of an object under the very key, or the
    item of an array at a position. -/
def Json.step? (step : String) : Json → Option Json
  | .obj members => members.lookup step
  | .arr items => (Decimal.readWord? step.toList).bind fun position => items[position.toNat]?
  | _ => none

/-- The value that several steps lead to. -/
def Json.walk? : List String → Json → Option Json
  | [], value => some value
  | step :: steps, value => (value.step? step).bind (Json.walk? steps)

/-- The text that stands for a value in a leaf: a string is itself, `null` is empty, and anything
    else is its compact JSON text. -/
def Json.inlineText : Json → String
  | .str s => s
  | .null => ""
  | value => value.text

namespace VarPath

/-- The value that the path names. -/
def resolve? (path : VarPath) (bindings : Bindings) : Option Json :=
  (bindings.lookup path.root).bind (Json.walk? path.steps)

/-- The text of the value that the path names. -/
def inlineText? (path : VarPath) (bindings : Bindings) : Option String :=
  (path.resolve? bindings).map Json.inlineText

end VarPath

namespace Segment

/-- The text of a segment, with empty text for a variable that is not bound. -/
def render (bindings : Bindings) : Segment → String
  | .literal text => text
  | .placeholder path => (path.inlineText? bindings).getD ""

/-- The text of a segment, or the path that is not bound. -/
def renderStrict (bindings : Bindings) : Segment → Except VarPath String
  | .literal text => .ok text
  | .placeholder path =>
    match path.inlineText? bindings with
    | some text => .ok text
    | none => .error path

end Segment

namespace Leaf

/-- The text of a leaf, with empty text for a variable that is not bound. -/
def render (leaf : Leaf) (bindings : Bindings) : String :=
  String.join (leaf.segments.map (Segment.render bindings))

/-- The text of a leaf, or the first of its paths that is not bound. -/
def renderStrict (leaf : Leaf) (bindings : Bindings) : Except VarPath String := do
  let texts ← leaf.segments.mapM (Segment.renderStrict bindings)
  return String.join texts

end Leaf

/-- The message about a variable that is not bound. -/
def VarPath.unboundMessage (path : VarPath) : String := "undefined variable `" ++ path.text ++ "`"

end Stencil
