import Stencil.Text.CharClass

/-!
# Blanks

The characters with the property `White_Space`, and trimming by them. The class is wider than
`Char.isWhitespace`: it has the no-break and the ideographic space, and the line separators.
-/

namespace Stencil.Text

/-- The characters with the property `White_Space`. -/
def blank : CharClass :=
  ⟨[
    (0x9, 0xD), (0x20, 0x20), (0x85, 0x85), (0xA0, 0xA0), (0x1680, 0x1680), (0x2000, 0x200A),
    (0x2028, 0x2029), (0x202F, 0x202F), (0x205F, 0x205F), (0x3000, 0x3000) ]⟩

/-- Whether `c` has the property `White_Space`. -/
def isBlank (c : Char) : Bool := blank.has c

/-- `cs` less the blanks at its start. -/
def trimStart (cs : List Char) : List Char := cs.dropWhile isBlank

/-- `cs` less the blanks at its end. -/
def trimEnd (cs : List Char) : List Char := (cs.reverse.dropWhile isBlank).reverse

/-- `cs` less the blanks at both ends. -/
def trim (cs : List Char) : List Char := trimEnd (trimStart cs)

end Stencil.Text
