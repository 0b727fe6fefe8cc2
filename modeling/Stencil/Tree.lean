import Stencil.Members
import Stencil.Path

/-!
# Trees with one kind of leaf

Documents, templates and rendered documents have the same shape and differ in their leaves only.
All work on them is done leaf by leaf, in document order: items by position, members in the order of
their keys, depth first.
-/

namespace Stencil

/-- A tree of sequences and mappings with leaves of type `α`. -/
inductive Tree (α : Type) where
  | leaf (content : α)
  | seq (items : List (Tree α))
  | map (members : List (String × Tree α))
  deriving Inhabited, Repr

namespace Tree

variable {α β ε : Type}

mutual

/-- Replaces every leaf by what `f` makes of it and of its path, and stops at the first failure. The
    path given leads to the tree. -/
def traverse (f : Path → α → Except ε β) (path : Path) : Tree α → Except ε (Tree β)
  | .leaf content => do return .leaf (← f path content)
  | .seq items => do return .seq (← traverseItems f path 0 items)
  | .map members => do return .map (← traverseMembers f path members)

/-- The items of a sequence at `path`, of which the first is at `index`. -/
def traverseItems (f : Path → α → Except ε β) (path : Path) (index : Nat) :
    List (Tree α) → Except ε (List (Tree β))
  | [] => return []
  | item :: items => do
    let item ← item.traverse f (path ++ [.index index])
    return item :: (← traverseItems f path (index + 1) items)

/-- The members of a mapping at `path`. -/
def traverseMembers (f : Path → α → Except ε β) (path : Path) :
    List (String × Tree α) → Except ε (List (String × Tree β))
  | [] => return []
  | (key, value) :: members => do
    let value ← value.traverse f (path ++ [.key key])
    return (key, value) :: (← traverseMembers f path members)

end

mutual

/-- Replaces every leaf by what `f` makes of it. -/
def mapLeaves (f : α → β) : Tree α → Tree β
  | .leaf content => .leaf (f content)
  | .seq items => .seq (mapItems f items)
  | .map members => .map (mapMembers f members)

/-- Replaces the leaves of the items of a sequence. -/
def mapItems (f : α → β) : List (Tree α) → List (Tree β)
  | [] => []
  | item :: items => item.mapLeaves f :: mapItems f items

/-- Replaces the leaves of the members of a mapping. -/
def mapMembers (f : α → β) : List (String × Tree α) → List (String × Tree β)
  | [] => []
  | (key, value) :: members => (key, value.mapLeaves f) :: mapMembers f members

end

mutual

/-- The leaves in document order. -/
def leaves : Tree α → List α
  | .leaf content => [content]
  | .seq items => itemLeaves items
  | .map members => memberLeaves members

/-- The leaves of the items of a sequence. -/
def itemLeaves : List (Tree α) → List α
  | [] => []
  | item :: items => item.leaves ++ itemLeaves items

/-- The leaves of the members of a mapping. -/
def memberLeaves : List (String × Tree α) → List α
  | [] => []
  | (_, value) :: members => value.leaves ++ memberLeaves members

end

/-- The number of leaves. -/
def leafCount (t : Tree α) : Nat := t.leaves.length

/-- The content of a tree that is one leaf. -/
def leaf? : Tree α → Option α
  | .leaf content => some content
  | _ => none

/-- The child of a mapping under `key`. -/
def child? (key : String) : Tree α → Option (Tree α)
  | .map members => members.lookup key
  | _ => none

mutual

/-- Decides whether two trees are equal. -/
def decEq [DecidableEq α] : (s t : Tree α) → Decidable (s = t)
  | .leaf a, .leaf b => if h : a = b then isTrue (by rw [h]) else isFalse (by simpa using h)
  | .seq xs, .seq ys =>
    match decEqItems xs ys with
    | isTrue h => isTrue (by rw [h])
    | isFalse h => isFalse (by simpa using h)
  | .map xs, .map ys =>
    match decEqMembers xs ys with
    | isTrue h => isTrue (by rw [h])
    | isFalse h => isFalse (by simpa using h)
  | .leaf _, .seq _ | .leaf _, .map _ | .seq _, .leaf _ | .seq _, .map _ | .map _, .leaf _
  | .map _, .seq _ => isFalse (by simp)

/-- Decides whether two lists of items are equal. -/
def decEqItems [DecidableEq α] : (xs ys : List (Tree α)) → Decidable (xs = ys)
  | [], [] => isTrue rfl
  | [], _ :: _ | _ :: _, [] => isFalse (by simp)
  | x :: xs, y :: ys =>
    match decEq x y, decEqItems xs ys with
    | isTrue h, isTrue h' => isTrue (by rw [h, h'])
    | isFalse h, _ => isFalse (by simp [h])
    | _, isFalse h => isFalse (by simp [h])

/-- Decides whether two lists of members are equal. -/
def decEqMembers [DecidableEq α] : (xs ys : List (String × Tree α)) → Decidable (xs = ys)
  | [], [] => isTrue rfl
  | [], _ :: _ | _ :: _, [] => isFalse (by simp)
  | (j, x) :: xs, (k, y) :: ys =>
    if hk : j = k then
      match decEq x y, decEqMembers xs ys with
      | isTrue h, isTrue h' => isTrue (by rw [hk, h, h'])
      | isFalse h, _ => isFalse (by simp [h])
      | _, isFalse h => isFalse (by simp [h])
    else isFalse (by simp [hk])

end

instance [DecidableEq α] : DecidableEq (Tree α) := decEq

end Tree

end Stencil
