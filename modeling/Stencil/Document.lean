import Stencil.Template.Error
import Stencil.Tree

/-!
# Documents

A document is a tree of texts: a JSON value with strings for leaves. Reading one from a JSON value
fails at the first other leaf in document order; writing one back gives the value it was read from.
-/

namespace Stencil

/-- A tree of texts that was not read for variables. -/
abbrev Document := Tree String

namespace Tree

mutual

/-- A tree of texts as a JSON value. -/
def toJson : Tree String → Json
  | .leaf text => .str text
  | .seq items => .arr (itemsToJson items)
  | .map members => .obj (membersToJson members)

/-- The items of a sequence as JSON values. -/
def itemsToJson : List (Tree String) → List Json
  | [] => []
  | item :: items => item.toJson :: itemsToJson items

/-- The members of a mapping as JSON values. -/
def membersToJson : List (String × Tree String) → List (String × Json)
  | [] => []
  | (key, value) :: members => (key, value.toJson) :: membersToJson members

end

mutual

/-- A tree of texts as it is serialized: as its content alone, with an object made by inserting its
    members one after another. -/
def serialize : Tree String → Json
  | .leaf text => .str text
  | .seq items => .arr (serializeItems items)
  | .map members => .ofPairs (serializeMembers members)

/-- The items of a sequence as they are serialized. -/
def serializeItems : List (Tree String) → List Json
  | [] => []
  | item :: items => item.serialize :: serializeItems items

/-- The members of a mapping as they are serialized. -/
def serializeMembers : List (String × Tree String) → List (String × Json)
  | [] => []
  | (key, value) :: members => (key, value.serialize) :: serializeMembers members

end

end Tree

namespace Document

mutual

/-- The tree of a JSON value that is reached by `path`. A number, a boolean or `null` in it is an
    error. -/
def ofJsonAt (path : Path) : Json → Except TemplateError Document
  | .str text => return .leaf text
  | .arr items => do return .seq (← ofItemsAt path 0 items)
  | .obj members => do return .map (← ofMembersAt path members)
  | .null => .error (.unsupportedShape path .null)
  | .bool _ => .error (.unsupportedShape path .boolean)
  | .num _ => .error (.unsupportedShape path .number)

/-- The trees of the items of an array, of which the first is at `index`. -/
def ofItemsAt (path : Path) (index : Nat) : List Json → Except TemplateError (List Document)
  | [] => return []
  | item :: items => do
    let item ← ofJsonAt (path ++ [.index index]) item
    return item :: (← ofItemsAt path (index + 1) items)

/-- The trees of the members of an object. -/
def ofMembersAt (path : Path) :
    List (String × Json) → Except TemplateError (List (String × Document))
  | [] => return []
  | (key, value) :: members => do
    let value ← ofJsonAt (path ++ [.key key]) value
    return (key, value) :: (← ofMembersAt path members)

end

/-- The document of a JSON value. -/
def ofJson (value : Json) : Except TemplateError Document := ofJsonAt [] value

end Document

end Stencil
