import Stencil.Leaf.Basic
import Stencil.Text.Blank

/-!
# Reading a leaf

A leaf is read from left to right. Literal text runs up to the next delimiter, `{{` or `}}`. A
placeholder runs from `{{` to the first `}}` after it and holds a variable path, with blanks around
it. Single braces are literal text. Offsets count UTF-8 bytes.
-/

namespace Stencil

/-- What is wrong with the text of a leaf. -/
inductive SyntaxFault where
  /-- A `}}` that closes nothing. -/
  | unbalancedClose
  /-- A `{{` with no `}}` after it. -/
  | unterminated
  /-- A `{{` inside a placeholder. -/
  | nestedOpen
  /-- A placeholder that holds blanks only. -/
  | emptyPlaceholder
  /-- A placeholder whose content, less the blanks around it, is no variable path. -/
  | badPath (content : String)
  deriving DecidableEq, Repr

namespace SyntaxFault

/-- The wording of a fault. -/
def message : SyntaxFault → String
  | .unbalancedClose => "unbalanced `\x7d\x7d` without matching `\x7b\x7b`"
  | .unterminated => "unterminated placeholder"
  | .nestedOpen => "unexpected `\x7b\x7b` inside placeholder"
  | .emptyPlaceholder => "empty placeholder"
  | .badPath content => "invalid placeholder expression `" ++ content ++ "`"

end SyntaxFault

/-- A fault and where it is. -/
structure SyntaxError where
  /-- The offset of the delimiter at fault, in bytes. -/
  offset : Nat
  fault : SyntaxFault
  deriving DecidableEq, Repr

namespace SyntaxError

/-- The wording of the fault, and its offset. -/
def message (e : SyntaxError) : String :=
  e.fault.message ++ " (offset " ++ String.ofList (Decimal.digits e.offset) ++ ")"

end SyntaxError

namespace Leaf

/-- What ends a run of literal text. -/
inductive LiteralEnd where
  /-- The end of the leaf. -/
  | finish
  /-- An opening delimiter, and the text after it. -/
  | opening (inner : List Char)
  /-- A closing delimiter. -/
  | closing
  deriving DecidableEq, Repr

/-- The literal text at the start of `cs`, up to the first delimiter, and what ends it. -/
def spanLiteral : List Char → List Char × LiteralEnd
  | [] => ([], .finish)
  | '{' :: '{' :: inner => ([], .opening inner)
  | '}' :: '}' :: _ => ([], .closing)
  | c :: cs => (c :: (spanLiteral cs).1, (spanLiteral cs).2)

theorem spanLiteral_length {cs literal inner : List Char}
    (h : spanLiteral cs = (literal, .opening inner)) : inner.length < cs.length := by
  fun_induction spanLiteral cs generalizing literal with
  | case1 => simp at h
  | case2 inner' =>
    simp only [Prod.mk.injEq, LiteralEnd.opening.injEq] at h
    simp only [List.length_cons, h.2]
    omega
  | case3 => simp at h
  | case4 c cs _ _ ih =>
    simp only [Prod.mk.injEq] at h
    have := @ih (spanLiteral cs).1 (by rw [← h.2])
    simp only [List.length_cons]
    omega

/-- The segment of a literal text; an empty text has none. -/
def literalSegments (literal : List Char) : List Segment :=
  if literal.isEmpty then [] else [.literal (String.ofList literal)]

/-- Reads the content of a placeholder that opens at `offset`. -/
def readPlaceholder (offset : Nat) (content : List Char) : Except SyntaxError VarPath :=
  match Text.cutDouble? '{' content with
  | some (before, _) => .error ⟨offset + 2 + Text.byteSize before, .nestedOpen⟩
  | none =>
    let trimmed := Text.trim content
    if trimmed.isEmpty then .error ⟨offset, .emptyPlaceholder⟩
    else match VarPath.ofText? trimmed with
      | some path => .ok path
      | none => .error ⟨offset, .badPath (String.ofList trimmed)⟩

/-- The segments of a text that starts at `offset`. -/
def scan (offset : Nat) (cs : List Char) : Except SyntaxError (List Segment) :=
  match h : spanLiteral cs with
  | (literal, .finish) => .ok (literalSegments literal)
  | (literal, .closing) => .error ⟨offset + Text.byteSize literal, .unbalancedClose⟩
  | (literal, .opening inner) =>
    let start := offset + Text.byteSize literal
    match h' : Text.cutDouble? '}' inner with
    | none => .error ⟨start, .unterminated⟩
    | some (content, rest) => do
      have : rest.length < cs.length := by
        have h₁ := spanLiteral_length h
        have h₂ := Text.cutDouble?_length h'
        omega
      let path ← readPlaceholder start content
      let segments ← scan (start + 2 + Text.byteSize content + 2) rest
      return literalSegments literal ++ .placeholder path :: segments
termination_by cs.length

/-- Reads the text of a leaf. -/
def parse (text : String) : Except SyntaxError Leaf :=
  (scan 0 text.toList).map ofSegments

end Leaf

end Stencil
