import Stencil.Decimal.Layout
import Stencil.Json.Basic

/-!
# Writing JSON

The compact text of a JSON value: no blanks, members in the order of the object, and an escape only
where a string would not read back without it.
-/

namespace Stencil

namespace Number

/-- A number in decimal. A binary64 number shows a fraction or an exponent, so that it reads back
    as one. -/
def text : Number → String
  | .int n => String.ofList (Decimal.integer n)
  | .float x => String.ofList (Decimal.Layout.interchange.text x)

end Number

namespace Json

/-- A digit of a code point below `0x20` in hexadecimal, with lower-case letters. -/
def controlEscape (c : Char) : List Char :=
  ['\\', 'u', '0', '0', Nat.digitChar (c.toNat / 16), Nat.digitChar (c.toNat % 16)]

/-- A character inside a string: quotes, backslashes and control characters are escaped. -/
def escaped (c : Char) : List Char :=
  match c with
  | '"' => ['\\', '"']
  | '\\' => ['\\', '\\']
  | '\x08' => ['\\', 'b']
  | '\x0c' => ['\\', 'f']
  | '\n' => ['\\', 'n']
  | '\r' => ['\\', 'r']
  | '\t' => ['\\', 't']
  | c => if c.toNat < 0x20 then controlEscape c else [c]

/-- A string between quotes. -/
def stringText (s : String) : String :=
  String.ofList ('"' :: (s.toList.flatMap escaped ++ ['"']))

mutual

/-- The compact text of a value. -/
def text : Json → String
  | .null => "null"
  | .bool b => if b then "true" else "false"
  | .num n => n.text
  | .str s => stringText s
  | .arr items => "[" ++ ",".intercalate (itemTexts items) ++ "]"
  | .obj members => "\x7b" ++ ",".intercalate (memberTexts members) ++ "\x7d"

/-- The texts of the items of an array. -/
def itemTexts : List Json → List String
  | [] => []
  | item :: items => item.text :: itemTexts items

/-- The texts of the members of an object, each a key and a value. -/
def memberTexts : List (String × Json) → List String
  | [] => []
  | (key, value) :: members => (stringText key ++ ":" ++ value.text) :: memberTexts members

end

end Json

end Stencil
