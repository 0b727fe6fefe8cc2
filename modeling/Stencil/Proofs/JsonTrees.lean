import Stencil.Proofs.Traversal
import Stencil.Template.Basic

/-!
# JSON values as trees

A JSON value is a tree whose leaves are strings, numbers, booleans and `null`. Reading a document is
a traversal of this tree that fails at every leaf but the strings, and writing a document keeps the
way to every node.
-/

namespace Stencil

namespace Json

/-- What holds of leaves, and of a value if it holds of what is in it, holds of all values. -/
@[elab_as_elim]
theorem induction {motive : Json → Prop} (null : motive .null) (bool : ∀ b, motive (.bool b))
    (num : ∀ n, motive (.num n)) (str : ∀ s, motive (.str s))
    (arr : ∀ items, (∀ item ∈ items, motive item) → motive (.arr items))
    (obj : ∀ members, (∀ member ∈ members, motive member.2) → motive (.obj members)) :
    ∀ value, motive value
  | .null => null
  | .bool b => bool b
  | .num n => num n
  | .str s => str s
  | .arr items => arr items fun item _ => induction null bool num str arr obj item
  | .obj members => obj members fun member _ => induction null bool num str arr obj member.2
decreasing_by
  · rename_i hm
    have hlt := List.sizeOf_lt_of_mem hm
    simp only [Json.arr.sizeOf_spec]
    omega
  · rename_i hm
    have hlt := List.sizeOf_lt_of_mem hm
    obtain ⟨key, value⟩ := member
    simp only [Prod.mk.sizeOf_spec, Json.obj.sizeOf_spec] at hlt ⊢
    omega

mutual

/-- A value as a tree. Everything but arrays and objects is a leaf. -/
def tree : Json → Tree Json
  | .arr items => .seq (itemTrees items)
  | .obj members => .map (memberTrees members)
  | value => .leaf value

/-- The items of an array as trees. -/
def itemTrees : List Json → List (Tree Json)
  | [] => []
  | item :: items => item.tree :: itemTrees items

/-- The members of an object with their values as trees. -/
def memberTrees : List (String × Json) → List (String × Tree Json)
  | [] => []
  | (key, value) :: members => (key, value.tree) :: memberTrees members

end

theorem itemTrees_eq_map (items : List Json) : itemTrees items = items.map tree := by
  induction items with
  | nil => rfl
  | cons item items ih => rw [itemTrees, ih, List.map_cons]

theorem memberTrees_eq_map (members : List (String × Json)) :
    memberTrees members = members.map fun member => (member.1, member.2.tree) := by
  induction members with
  | nil => rfl
  | cons member members ih => rw [memberTrees, ih, List.map_cons]

/-- A path leads to the same node of a value and of its tree. -/
theorem at?_tree (value : Json) (path : Path) :
    value.tree.at? path = (value.at? path).map tree := by
  induction path generalizing value with
  | nil => rfl
  | cons step path ih =>
    cases step with
    | index i =>
      cases value with
      | arr items =>
        rw [tree, Tree.at?, at?, itemTrees_eq_map, List.getElem?_map]
        cases items[i]? with
        | none => rfl
        | some item => exact ih item
      | _ => rfl
    | key k =>
      cases value with
      | obj members =>
        rw [tree, Tree.at?, at?, memberTrees_eq_map, Members.lookup_map]
        cases members.lookup k with
        | none => rfl
        | some value => exact ih value
      | _ => rfl

theorem wellOrderedItems_iff {items : List Json} :
    WellOrderedItems items ↔ ∀ item ∈ items, item.WellOrdered := by
  induction items with
  | nil => simp [WellOrderedItems]
  | cons item items ih => rw [WellOrderedItems, ih, List.forall_mem_cons]

theorem wellOrderedMembers_iff {members : List (String × Json)} :
    WellOrderedMembers members ↔ ∀ member ∈ members, member.2.WellOrdered := by
  induction members with
  | nil => simp [WellOrderedMembers]
  | cons member members ih => rw [WellOrderedMembers, ih, List.forall_mem_cons]

theorem wellOrdered_tree {value : Json} : value.tree.WellOrdered ↔ value.WellOrdered := by
  induction value using induction with
  | arr items ih =>
    rw [tree, Tree.WellOrdered, WellOrdered, Tree.wellOrderedItems_iff, wellOrderedItems_iff,
      itemTrees_eq_map, List.forall_mem_map]
    exact forall₂_congr ih
  | obj members ih =>
    rw [tree, Tree.WellOrdered, WellOrdered, Tree.wellOrderedMembers_iff, wellOrderedMembers_iff,
      memberTrees_eq_map, Members.increasing_map, List.forall_mem_map]
    exact and_congr Iff.rfl (forall₂_congr ih)
  | _ => rfl

end Json

/-! ## Reading documents -/

namespace Document

/-- The text of a string. Any other leaf is an error. -/
def readLeaf (path : Path) : Json → Except TemplateError String
  | .str text => .ok text
  | value => .error (.unsupportedShape path value.kind)

/-- The text of a string, and no text for any other leaf. -/
def leafText : Json → String
  | .str text => text
  | _ => ""

theorem gives_readLeaf : Tree.Gives readLeaf leafText := by
  intro path value text h
  cases value with
  | str s =>
    cases h
    rfl
  | _ => cases h

end Document

/-- The document of a value, with empty text for leaves that are no string. -/
def Json.document (value : Json) : Document := value.tree.mapLeaves Document.leafText

theorem Json.document_arr (items : List Json) :
    (Json.arr items).document = .seq (items.map document) := by
  rw [document, tree, itemTrees_eq_map, Tree.mapLeaves, Tree.mapItems_eq_map, List.map_map]
  rfl

theorem Json.document_obj (members : List (String × Json)) :
    (Json.obj members).document =
      .map (members.map fun member => (member.1, member.2.document)) := by
  rw [document, tree, memberTrees_eq_map, Tree.mapLeaves, Tree.mapMembers_eq_map, List.map_map]
  rfl

theorem Json.at?_document (value : Json) (path : Path) :
    value.document.at? path = (value.at? path).map document := by
  rw [document, Tree.at?_mapLeaves, at?_tree, Option.map_map]
  rfl

theorem Json.wellOrdered_document {value : Json} : value.document.WellOrdered ↔ value.WellOrdered :=
  Tree.wellOrdered_mapLeaves.trans wellOrdered_tree

namespace Document

/-- Reading a document is a traversal of the value as a tree. -/
theorem ofJsonAt_eq_traverse (path : Path) (value : Json) :
    ofJsonAt path value = value.tree.traverse readLeaf path := by
  induction value using Json.induction generalizing path with
  | arr items ih =>
    have hitems (index : Nat) : ofItemsAt path index items =
        Tree.traverseItems readLeaf path index (Json.itemTrees items) := by
      induction items generalizing index with
      | nil => rfl
      | cons item items ihs =>
        obtain ⟨ihitem, ihitems⟩ := List.forall_mem_cons.mp ih
        rw [ofItemsAt, Json.itemTrees, Tree.traverseItems, ihitem, ihs ihitems]
    rw [ofJsonAt, Json.tree, Tree.traverse, hitems]
  | obj members ih =>
    have hmembers : ofMembersAt path members =
        Tree.traverseMembers readLeaf path (Json.memberTrees members) := by
      induction members with
      | nil => rfl
      | cons member members ihs =>
        obtain ⟨key, value⟩ := member
        obtain ⟨ihvalue, ihmembers⟩ := List.forall_mem_cons.mp ih
        rw [ofMembersAt, Json.memberTrees, Tree.traverseMembers, ihvalue, ihs ihmembers]
    rw [ofJsonAt, Json.tree, Tree.traverse, hmembers]
  | _ => rfl

end Document

/-! ## Writing documents -/

namespace Tree

theorem itemsToJson_eq_map (items : List (Tree String)) :
    itemsToJson items = items.map toJson := by
  induction items with
  | nil => rfl
  | cons item items ih => rw [itemsToJson, ih, List.map_cons]

theorem membersToJson_eq_map (members : List (String × Tree String)) :
    membersToJson members = members.map fun member => (member.1, member.2.toJson) := by
  induction members with
  | nil => rfl
  | cons member members ih => rw [membersToJson, ih, List.map_cons]

/-- A path leads to the same node of a document and of its JSON value. -/
theorem at?_toJson (doc : Tree String) (path : Path) :
    doc.toJson.at? path = (doc.at? path).map toJson := by
  induction path generalizing doc with
  | nil => rfl
  | cons step path ih =>
    cases step with
    | index i =>
      cases doc with
      | seq items =>
        rw [toJson, Json.at?, at?, itemsToJson_eq_map, List.getElem?_map]
        cases items[i]? with
        | none => rfl
        | some item => exact ih item
      | _ => rfl
    | key k =>
      cases doc with
      | map members =>
        rw [toJson, Json.at?, at?, membersToJson_eq_map, Members.lookup_map]
        cases members.lookup k with
        | none => rfl
        | some value => exact ih value
      | _ => rfl

end Tree

end Stencil
