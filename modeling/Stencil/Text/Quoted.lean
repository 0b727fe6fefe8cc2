import Stencil.Text.Printable

/-!
# Quoted texts

The form in which a message shows a text it complains about: between double quotes, with escapes
for quotes, backslashes, and every character that a reader could not see.
-/

namespace Stencil.Text

/-- A code point in hexadecimal, as an escape. -/
def codeEscape (c : Char) : List Char :=
  "\\u\x7b".toList ++ Nat.toDigits 16 c.toNat ++ "\x7d".toList

/-- A character inside quotes. -/
def quotedChar (c : Char) : List Char :=
  match c with
  | '\x00' => ['\\', '0']
  | '\t' => ['\\', 't']
  | '\r' => ['\\', 'r']
  | '\n' => ['\\', 'n']
  | '"' => ['\\', '"']
  | '\\' => ['\\', '\\']
  | c => if extendingMark.has c || unprintable.has c then codeEscape c else [c]

/-- A text between quotes. -/
def quoted (text : String) : String :=
  String.ofList ('"' :: (text.toList.flatMap quotedChar ++ ['"']))

end Stencil.Text
