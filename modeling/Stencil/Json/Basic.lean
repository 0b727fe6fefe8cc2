import Stencil.Decimal.Binary64
import Stencil.Members

/-!
# JSON values

A JSON value as a tree. Objects are `Members`; a value is `WellOrdered` if each of its objects is
in key order, as every value is that was read from a text. Integers and binary64 numbers are
different values, whatever they amount to.
-/

namespace Stencil

/-- A number: an integer, or a binary64 number if it was written with a fraction or an exponent. -/
inductive Number where
  | int (n : Int)
  | float (x : Decimal.Binary64)
  deriving DecidableEq, Repr

/-- A JSON value. -/
inductive Json where
  | null
  | bool (b : Bool)
  | num (n : Number)
  | str (s : String)
  | arr (items : List Json)
  | obj (members : List (String × Json))
  deriving Inhabited, Repr

/-- What a JSON value is, without its content. -/
inductive Kind where
  | null
  | boolean
  | number
  | string
  | array
  | object
  deriving DecidableEq, Repr

namespace Kind

/-- The word for a kind in a message. -/
def name : Kind → String
  | .null => "null"
  | .boolean => "boolean"
  | .number => "number"
  | .string => "string"
  | .array => "array"
  | .object => "object"

end Kind

namespace Json

def kind : Json → Kind
  | .null => .null
  | .bool _ => .boolean
  | .num _ => .number
  | .str _ => .string
  | .arr _ => .array
  | .obj _ => .object

/-- The members of an object; any other value has none. -/
def members : Json → Members Json
  | .obj members => members
  | _ => []

/-- The member of an object under `key`. -/
def member? (key : String) : Json → Option Json
  | .obj members => members.lookup key
  | _ => none

/-- The object of a list of pairs in any order, a later pair replacing an earlier one. -/
def ofPairs (pairs : List (String × Json)) : Json := .obj (Members.ofPairs pairs)

mutual

/-- Every object of the value has its keys in increasing order. -/
def WellOrdered : Json → Prop
  | .arr items => WellOrderedItems items
  | .obj members => Members.Increasing members ∧ WellOrderedMembers members
  | _ => True

/-- Every item is well ordered. -/
def WellOrderedItems : List Json → Prop
  | [] => True
  | item :: items => item.WellOrdered ∧ WellOrderedItems items

/-- Every member's value is well ordered. -/
def WellOrderedMembers : List (String × Json) → Prop
  | [] => True
  | (_, value) :: members => value.WellOrdered ∧ WellOrderedMembers members

end

end Json

end Stencil
