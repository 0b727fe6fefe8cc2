import Stencil.Decimal.Reader

/-!
# Key paths

The keys of a layer of settings may lead into the layer: `log.level` names a member of the table
`log`, and `log[0]` an item of the list `log`. A key that is not written like this is a plain key.
-/

namespace Stencil

/-- One step of a key path below its first key. -/
inductive KeyStep where
  | member (key : String)
  /-- An item by position; a negative one counts from the end. -/
  | item (position : Int)
  deriving DecidableEq, Repr

/-- A first key and the steps below it. -/
structure KeyPath where
  first : String
  steps : List KeyStep
  deriving DecidableEq, Repr

namespace KeyPath

/-- Whether `c` may stand in a key of a path. -/
def isKeyChar (c : Char) : Bool := c.isAlphanum || c = ' ' || c = '_' || c = '-'

/-- The key at the start of a text, which has one character at least, and the rest. -/
def spanKey? (cs : List Char) : Option (String × List Char) :=
  match cs.takeWhile isKeyChar with
  | [] => none
  | key => some (String.ofList key, cs.dropWhile isKeyChar)

/-- Whether `c` may stand around a position. -/
def isSpace (c : Char) : Bool := c = ' ' || c = '\t'

/-- Reads a position: digits with an optional minus sign, with spaces around them. -/
def position? (cs : List Char) : Option Int :=
  let trimmed := ((cs.dropWhile isSpace).reverse.dropWhile isSpace).reverse
  if trimmed.head? = some '+' then none
  else (Decimal.readInteger? trimmed).filter Decimal.isSignedWord

/-- Reads steps that make up a whole text. The fuel is a bound for their number. -/
def steps? : Nat → List Char → Option (List KeyStep)
  | _, [] => some []
  | 0, _ => none
  | fuel + 1, '.' :: rest => do
    let (key, rest) ← spanKey? rest
    return .member key :: (← steps? fuel rest)
  | fuel + 1, '[' :: rest => do
    let i ← position? (rest.takeWhile (· ≠ ']'))
    match rest.dropWhile (· ≠ ']') with
    | _ :: rest => return .item i :: (← steps? fuel rest)
    | [] => none
  | _, _ => none

/-- Reads a text as a path. -/
def ofText? (text : String) : Option KeyPath := do
  let (first, rest) ← spanKey? text.toList
  return ⟨first, ← steps? rest.length rest⟩

/-- The path of a key, which is a plain key if it is not written as a path. -/
def ofKey (key : String) : KeyPath := (ofText? key).getD ⟨key, []⟩

end KeyPath

end Stencil
