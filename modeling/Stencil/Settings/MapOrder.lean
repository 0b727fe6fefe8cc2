import Stencil.Settings.Config

/-!
# Orders of maps

The tables of settings are hash maps. Whoever goes through one meets its members in an order that
nothing fixes, and that is another one the next time. So where the order could show, it is a
parameter: a rearrangement of the members for every table there is.
-/

namespace Stencil

/-- The orders in which the members of tables are met. A table is told by the way that leads to it. -/
structure MapOrder where
  arrange : List KeyStep → Members ConfigValue → Members ConfigValue
  perm : ∀ place members, (arrange place members).Perm members

namespace MapOrder

/-- Members are met in the order in which they are kept. -/
def forward : MapOrder := ⟨fun _ members => members, fun _ members => .refl members⟩

/-- Members are met in the order opposite to the one in which they are kept. -/
def backward : MapOrder :=
  ⟨fun _ members => members.reverse, fun _ members => members.reverse_perm⟩

instance : Inhabited MapOrder := ⟨forward⟩

end MapOrder

namespace ConfigValue

mutual

/-- A value at a place, with the members of all tables in it in the order in which they are met. -/
def arranged (order : MapOrder) (place : List KeyStep) : ConfigValue → ConfigValue
  | .scalar value origin => .scalar value origin
  | .list items origin => .list (arrangedItems order place 0 items) origin
  | .table members origin =>
    .table (order.arrange place (arrangedMembers order place members)) origin

/-- The items of a list at a place, from the one at a position on. -/
def arrangedItems (order : MapOrder) (place : List KeyStep) (i : Int) :
    List ConfigValue → List ConfigValue
  | [] => []
  | item :: items =>
    arranged order (place ++ [.item i]) item :: arrangedItems order place (i + 1) items

/-- The members of a table at a place, which are still in the order of the table. -/
def arrangedMembers (order : MapOrder) (place : List KeyStep) :
    List (String × ConfigValue) → List (String × ConfigValue)
  | [] => []
  | (key, value) :: members =>
    (key, arranged order (place ++ [.member key]) value) :: arrangedMembers order place members

end

end ConfigValue

/-- A layer in the order in which its members, and those of the tables in it, are met. -/
def MapOrder.layer (order : MapOrder) (layer : Members ConfigValue) : Members ConfigValue :=
  order.arrange [] (ConfigValue.arrangedMembers order [] layer)

/-- The orders of all maps that are gone through when settings are loaded: those in each of the four
    layers, and those in what the layers amount to. -/
structure Orders where
  defaults : MapOrder
  base : MapOrder
  mode : MapOrder
  environment : MapOrder
  merged : MapOrder

namespace Orders

/-- The same order for all maps. -/
def all (order : MapOrder) : Orders := ⟨order, order, order, order, order⟩

def forward : Orders := all .forward

def backward : Orders := all .backward

instance : Inhabited Orders := ⟨forward⟩

end Orders

end Stencil
