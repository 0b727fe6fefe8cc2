import Stencil.Json.Basic
import Stencil.Settings.KeyPath
import Stencil.Text.Lowercase

/-!
# Layers of settings

Settings come in layers, each a table of keys and values. Layers are put on top of each other key by
key: a table is merged into what is there, and any other value replaces it. Keys are compared in
lower case. A value knows the place it came from, for the message about it.

A table is a map without an order of its own. Its members are gone through in the order of the list
here, so whatever goes through a table is also told by it in which order.
-/

namespace Stencil

/-- A value without parts. -/
inductive Scalar where
  | null
  | boolean (b : Bool)
  | integer (n : Int)
  | float (x : Decimal.Binary64)
  | string (s : String)
  deriving DecidableEq, Repr

/-- A value of a layer, with the place it came from. The members of a table have different keys, and
    stand in the order in which they are met. -/
inductive ConfigValue where
  | scalar (value : Scalar) (origin : Option String)
  | list (items : List ConfigValue) (origin : Option String)
  | table (members : List (String × ConfigValue)) (origin : Option String)
  deriving Inhabited, Repr

namespace ConfigValue

def origin : ConfigValue → Option String
  | .scalar _ origin | .list _ origin | .table _ origin => origin

/-- A table with no members that came from nowhere. -/
def emptyTable : ConfigValue := .table [] none

/-- What stands where nothing was put yet. -/
def absent : ConfigValue := .scalar .null none

/-- The members of a table; any other value has none. -/
def members : ConfigValue → Members ConfigValue
  | .table members _ => members
  | _ => []

/-- The items of a list; any other value has none. -/
def items : ConfigValue → List ConfigValue
  | .list items _ => items
  | _ => []

/-- Puts members into a value; unless it is a table, a new table takes its place. -/
def withMembers (members : Members ConfigValue) : ConfigValue → ConfigValue
  | .table _ origin => .table members origin
  | _ => .table members none

/-- Puts items into a value; unless it is a list, a new list takes its place. -/
def withItems (items : List ConfigValue) : ConfigValue → ConfigValue
  | .list _ origin => .list items origin
  | _ => .list items none

mutual

/-- Puts a value under a key: a table is merged into what is there, anything else replaces it. -/
def assign (key : String) (value : ConfigValue) (target : ConfigValue) : ConfigValue :=
  let key := Text.lowercase key
  match value with
  | .table members _ =>
    let below := (target.members.lookup key).getD emptyTable
    target.withMembers (target.members.insert key (assignAll members below))
  | .scalar .. => target.withMembers (target.members.insert key value)
  | .list .. => target.withMembers (target.members.insert key value)

/-- Puts each of several values under its key, one after another. -/
def assignAll (members : List (String × ConfigValue)) (target : ConfigValue) : ConfigValue :=
  match members with
  | [] => target
  | (key, value) :: rest => assignAll rest (assign key value target)

end

/-- Replaces the item at a position by what `f` makes of it. A list that is too short grows; a
    negative position counts from the end. -/
def modifyItem (f : ConfigValue → ConfigValue) (position : Int) (items : List ConfigValue) :
    List ConfigValue :=
  let start := if position < 0 then items.length + position else position
  let grown :=
    if start < 0 then List.replicate start.natAbs absent ++ items
    else items ++ List.replicate (start.toNat + 1 - items.length) absent
  grown.modify start.toNat f

/-- Puts a value at the end of a path below `target`. Every key on the path counts in lower case;
    tables and lists are made on the way. -/
def assignAt (value : ConfigValue) : List KeyStep → ConfigValue → ConfigValue
  | [], _ => value
  | [.member key], target => assign key value target
  | .member key :: steps, target =>
    let key := Text.lowercase key
    let below := (target.members.lookup key).getD absent
    target.withMembers (target.members.insert key (assignAt value steps below))
  | .item i :: steps, target =>
    target.withItems (modifyItem (assignAt value steps) i target.items)

/-- Puts a value under a key that may be a path. -/
def assignKey (key : String) (value : ConfigValue) (target : ConfigValue) : ConfigValue :=
  let path := KeyPath.ofKey key
  assignAt value (.member path.first :: path.steps) target

/-- Puts a layer on top of the layers below it, member by member. -/
def overlay (layer : Members ConfigValue) (target : ConfigValue) : ConfigValue :=
  layer.foldl (fun target member => assignKey member.1 member.2 target) target

/-- The scalar of a number: an integer beyond 63 bits is rounded. -/
def ofNumber : Number → Scalar
  | .int n =>
    if Decimal.isSignedWord n then .integer n
    else .float (Decimal.Binary64.ofDecimal (n < 0) n.natAbs 0)
  | .float x => .float x

mutual

/-- A JSON value that came from `origin`. -/
def ofJson (origin : String) : Json → ConfigValue
  | .null => .scalar .null (some origin)
  | .bool b => .scalar (.boolean b) (some origin)
  | .num n => .scalar (ofNumber n) (some origin)
  | .str s => .scalar (.string s) (some origin)
  | .arr items => .list (ofItems origin items) (some origin)
  | .obj members => .table (ofMembers origin members) (some origin)

/-- The items of an array that came from `origin`. -/
def ofItems (origin : String) : List Json → List ConfigValue
  | [] => []
  | item :: items => ofJson origin item :: ofItems origin items

/-- The members of an object that came from `origin`. -/
def ofMembers (origin : String) : List (String × Json) → List (String × ConfigValue)
  | [] => []
  | (key, value) :: members => (key, ofJson origin value) :: ofMembers origin members

end

end ConfigValue

end Stencil
