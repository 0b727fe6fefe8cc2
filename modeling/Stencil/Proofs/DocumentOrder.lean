import Stencil.Json.Basic
import Stencil.Proofs.ByteOrder
import Stencil.Tree

/-!
# Document order

The nodes of a tree are told apart by their paths, and document order is an order of paths: items by
position, members by the bytes of their keys, depth first. `Tree.positions` lists the leaves of a
tree with their paths, in this order.
-/

namespace Stencil

/-! ## The order of paths -/

/-- Of two children of a node, the one that comes first. -/
def Step.Before : Step → Step → Prop
  | .index i, .index j => i < j
  | .key k, .key l => Text.bytes k < Text.bytes l
  | _, _ => False

/-- A node comes before what is in it; otherwise the first step that differs decides. -/
def Path.Before : Path → Path → Prop
  | _, [] => False
  | [], _ :: _ => True
  | s :: p, t :: q => s.Before t ∨ s = t ∧ Before p q

theorem Step.Before.asymm {s t : Step} (h : s.Before t) : ¬t.Before s := by
  intro h'
  cases s with
  | key k =>
    cases t with
    | key l => exact List.lt_asymm h h'
    | index j => exact h
  | index i =>
    cases t with
    | key l => exact h
    | index j => exact Nat.lt_asymm h h'

theorem Path.not_before_nil (p : Path) : ¬p.Before [] := by
  cases p with
  | nil => exact id
  | cons s p => exact id

theorem Path.Before.asymm {p q : Path} (h : p.Before q) : ¬q.Before p := by
  intro h'
  induction p generalizing q with
  | nil => exact not_before_nil q h'
  | cons s p ih =>
    cases q with
    | nil => exact h
    | cons t q =>
      rcases h with h | ⟨rfl, h⟩
      · rcases h' with h' | ⟨rfl, -⟩
        · exact h.asymm h'
        · exact h.asymm h
      · rcases h' with h' | ⟨-, h'⟩
        · exact h'.asymm h'
        · exact ih h h'

/-- The first path with a property, in document order. -/
structure Path.First (P : Path → Prop) (p : Path) : Prop where
  holds : P p
  before : ∀ q, P q → q = p ∨ p.Before q

theorem Path.first_congr {P Q : Path → Prop} (h : ∀ p, P p ↔ Q p) {p : Path} :
    Path.First P p ↔ Path.First Q p := by
  rw [funext fun q => propext (h q)]

/-- There is at most one first path. -/
theorem Path.First.unique {P : Path → Prop} {p q : Path} (hp : Path.First P p)
    (hq : Path.First P q) : p = q := by
  rcases hp.before q hq.holds with h | h
  · exact h.symm
  · rcases hq.before p hp.holds with h' | h'
    · exact h'
    · exact absurd h' h.asymm

/-! ## The node at a path -/

/-- The node that a path leads to. -/
def Json.at? : Path → Json → Option Json
  | [], value => some value
  | .index i :: path, .arr items => items[i]?.bind (at? path)
  | .key k :: path, .obj members => (members.lookup k).bind (at? path)
  | _ :: _, _ => none

namespace Tree

variable {α β : Type}

/-- The node that a path leads to. -/
def at? : Path → Tree α → Option (Tree α)
  | [], t => some t
  | .index i :: path, .seq items => items[i]?.bind (at? path)
  | .key k :: path, .map members => (members.lookup k).bind (at? path)
  | _ :: _, _ => none

/-- What holds of leaves, and of a node if it holds of its children, holds of all trees. -/
@[elab_as_elim]
theorem induction {motive : Tree α → Prop} (leaf : ∀ content, motive (.leaf content))
    (seq : ∀ items, (∀ item ∈ items, motive item) → motive (.seq items))
    (map : ∀ members, (∀ member ∈ members, motive member.2) → motive (.map members)) :
    ∀ t, motive t
  | .leaf content => leaf content
  | .seq items => seq items fun item _ => induction leaf seq map item
  | .map members => map members fun member _ => induction leaf seq map member.2
decreasing_by
  · rename_i hm
    have hlt := List.sizeOf_lt_of_mem hm
    simp only [Tree.seq.sizeOf_spec]
    omega
  · rename_i hm
    have hlt := List.sizeOf_lt_of_mem hm
    obtain ⟨key, value⟩ := member
    simp only [Prod.mk.sizeOf_spec, Tree.map.sizeOf_spec] at hlt ⊢
    omega

/-! ## Leaves and their paths -/

/-- Leaves of a child, by their paths from the parent. -/
def under (step : Step) (leaves : List (Path × α)) : List (Path × α) :=
  leaves.map fun leaf => (step :: leaf.1, leaf.2)

mutual

/-- The leaves and their paths, in document order. -/
def positions : Tree α → List (Path × α)
  | .leaf content => [([], content)]
  | .seq items => itemPositions 0 items
  | .map members => memberPositions members

/-- The leaves in the items of a sequence, of which the first is at `index`. -/
def itemPositions (index : Nat) : List (Tree α) → List (Path × α)
  | [] => []
  | item :: items => under (.index index) item.positions ++ itemPositions (index + 1) items

/-- The leaves in the members of a mapping. -/
def memberPositions : List (String × Tree α) → List (Path × α)
  | [] => []
  | (key, value) :: members => under (.key key) value.positions ++ memberPositions members

end

mutual

/-- Every mapping of the tree has its keys in increasing order. -/
def WellOrdered : Tree α → Prop
  | .leaf _ => True
  | .seq items => WellOrderedItems items
  | .map members => Members.Increasing members ∧ WellOrderedMembers members

/-- Every item is well ordered. -/
def WellOrderedItems : List (Tree α) → Prop
  | [] => True
  | item :: items => item.WellOrdered ∧ WellOrderedItems items

/-- Every member's value is well ordered. -/
def WellOrderedMembers : List (String × Tree α) → Prop
  | [] => True
  | (_, value) :: members => value.WellOrdered ∧ WellOrderedMembers members

end

theorem wellOrderedItems_iff {items : List (Tree α)} :
    WellOrderedItems items ↔ ∀ item ∈ items, item.WellOrdered := by
  induction items with
  | nil => simp [WellOrderedItems]
  | cons item items ih => rw [WellOrderedItems, ih, List.forall_mem_cons]

theorem wellOrderedMembers_iff {members : List (String × Tree α)} :
    WellOrderedMembers members ↔ ∀ member ∈ members, member.2.WellOrdered := by
  induction members with
  | nil => simp [WellOrderedMembers]
  | cons member members ih => rw [WellOrderedMembers, ih, List.forall_mem_cons]

theorem mem_under {step : Step} {leaves : List (Path × α)} {path : Path} {content : α} :
    (path, content) ∈ under step leaves ↔
      ∃ rest, path = step :: rest ∧ (rest, content) ∈ leaves := by
  unfold under
  rw [List.mem_map]
  constructor
  · intro hlisted
    obtain ⟨⟨rest, content'⟩, hm, he⟩ := hlisted
    cases he
    exact ⟨rest, rfl, hm⟩
  · intro hlisted
    obtain ⟨rest, rfl, hm⟩ := hlisted
    exact ⟨(rest, content), hm, rfl⟩

theorem mem_itemPositions {index : Nat} {items : List (Tree α)} {path : Path} {content : α} :
    (path, content) ∈ itemPositions index items ↔
      ∃ i item rest, items[i]? = some item ∧ path = .index (index + i) :: rest ∧
        (rest, content) ∈ item.positions := by
  induction items generalizing index with
  | nil => simp [itemPositions]
  | cons item items ih =>
    rw [itemPositions, List.mem_append, mem_under, ih]
    constructor
    · intro hlisted
      rcases hlisted with ⟨rest, rfl, hm⟩ | ⟨i, item', rest, hi, rfl, hm⟩
      · exact ⟨0, item, rest, rfl, rfl, hm⟩
      · exact ⟨i + 1, item', rest, hi, by rw [Nat.add_right_comm, Nat.add_assoc], hm⟩
    · intro hlisted
      obtain ⟨i, item', rest, hi, rfl, hm⟩ := hlisted
      cases i with
      | zero =>
        cases hi
        exact Or.inl ⟨rest, rfl, hm⟩
      | succ i =>
        exact Or.inr ⟨i, item', rest, hi, by rw [Nat.add_right_comm, Nat.add_assoc], hm⟩

theorem mem_memberPositions {members : List (String × Tree α)} {path : Path} {content : α} :
    (path, content) ∈ memberPositions members ↔
      ∃ key value rest, (key, value) ∈ members ∧ path = .key key :: rest ∧
        (rest, content) ∈ value.positions := by
  induction members with
  | nil => simp [memberPositions]
  | cons member members ih =>
    obtain ⟨key, value⟩ := member
    rw [memberPositions, List.mem_append, mem_under, ih]
    constructor
    · intro hlisted
      rcases hlisted with ⟨rest, rfl, hm⟩ | ⟨key', value', rest, hk, rfl, hm⟩
      · exact ⟨key, value, rest, List.mem_cons_self, rfl, hm⟩
      · exact ⟨key', value', rest, List.mem_cons_of_mem _ hk, rfl, hm⟩
    · intro hlisted
      obtain ⟨key', value', rest, hk, rfl, hm⟩ := hlisted
      rcases List.mem_cons.mp hk with he | hk
      · cases he
        exact Or.inl ⟨rest, rfl, hm⟩
      · exact Or.inr ⟨key', value', rest, hk, rfl, hm⟩

/-- Every leaf that a path leads to is listed. -/
theorem mem_positions_of_at? {t : Tree α} {path : Path} {content : α}
    (h : t.at? path = some (.leaf content)) : (path, content) ∈ t.positions := by
  induction path generalizing t with
  | nil =>
    cases h
    exact List.mem_singleton.mpr rfl
  | cons step path ih =>
    cases step with
    | index i =>
      cases t with
      | leaf content => cases h
      | map members => cases h
      | seq items =>
        obtain ⟨item, hi, hitem⟩ := Option.bind_eq_some_iff.mp h
        exact mem_itemPositions.mpr ⟨i, item, path, hi, by rw [Nat.zero_add], ih hitem⟩
    | key k =>
      cases t with
      | leaf content => cases h
      | seq items => cases h
      | map members =>
        obtain ⟨value, hk, hvalue⟩ := Option.bind_eq_some_iff.mp h
        obtain ⟨before, after, rfl, -⟩ := List.lookup_eq_some_iff.mp hk
        exact mem_memberPositions.mpr ⟨k, value, path, by simp, rfl, ih hvalue⟩

/-- The leaves that are listed are those that paths lead to. -/
theorem mem_positions_iff {t : Tree α} (ht : t.WellOrdered) {path : Path} {content : α} :
    (path, content) ∈ t.positions ↔ t.at? path = some (.leaf content) := by
  refine ⟨?_, mem_positions_of_at?⟩
  induction t using induction generalizing path with
  | leaf content =>
    intro h
    cases List.mem_singleton.mp h
    rfl
  | seq items ih =>
    intro h
    obtain ⟨i, item, rest, hi, rfl, hm⟩ := mem_itemPositions.mp h
    have hitem := List.mem_of_getElem? hi
    rw [Nat.zero_add, at?, hi]
    exact ih item hitem (wellOrderedItems_iff.mp ht item hitem) hm
  | map members ih =>
    intro h
    obtain ⟨key, value, rest, hk, rfl, hm⟩ := mem_memberPositions.mp h
    rw [at?, (Members.mem_iff_lookup ht.1).mp hk]
    exact ih (key, value) hk (wellOrderedMembers_iff.mp ht.2 (key, value) hk) hm

theorem pairwise_under {step : Step} {leaves : List (Path × α)}
    (h : leaves.Pairwise fun x y => x.1.Before y.1) :
    (under step leaves).Pairwise fun x y => x.1.Before y.1 :=
  List.pairwise_map.mpr (h.imp fun hxy => Or.inr ⟨rfl, hxy⟩)

/-- The leaves are listed in document order. -/
theorem pairwise_positions {t : Tree α} (ht : t.WellOrdered) :
    t.positions.Pairwise fun x y => x.1.Before y.1 := by
  induction t using induction with
  | leaf content => exact List.pairwise_singleton _ _
  | seq items ih =>
    have hitems := wellOrderedItems_iff.mp ht
    clear ht
    rw [positions]
    generalize 0 = index
    induction items generalizing index with
    | nil => exact List.Pairwise.nil
    | cons item items ihs =>
      obtain ⟨hitem, hitems⟩ := List.forall_mem_cons.mp hitems
      obtain ⟨ihitem, ihitems⟩ := List.forall_mem_cons.mp ih
      refine List.pairwise_append.mpr ⟨pairwise_under (ihitem hitem), ihs ihitems hitems _, ?_⟩
      rintro ⟨p, a⟩ hp ⟨q, b⟩ hq
      obtain ⟨rest, rfl, -⟩ := mem_under.mp hp
      obtain ⟨i, -, rest', -, rfl, -⟩ := mem_itemPositions.mp hq
      exact Or.inl (Nat.lt_of_lt_of_le (Nat.lt_succ_self index) (Nat.le_add_right _ i))
  | map members ih =>
    obtain ⟨hinc, hvalues⟩ := ht
    replace hvalues := wellOrderedMembers_iff.mp hvalues
    rw [positions]
    induction members with
    | nil => exact List.Pairwise.nil
    | cons member members ihs =>
      obtain ⟨key, value⟩ := member
      obtain ⟨hkey, hinc⟩ := Members.increasing_cons.mp hinc
      obtain ⟨hvalue, hvalues⟩ := List.forall_mem_cons.mp hvalues
      obtain ⟨ihvalue, ihvalues⟩ := List.forall_mem_cons.mp ih
      refine List.pairwise_append.mpr
        ⟨pairwise_under (ihvalue hvalue), ihs ihvalues hinc hvalues, ?_⟩
      rintro ⟨p, a⟩ hp ⟨q, b⟩ hq
      obtain ⟨rest, rfl, -⟩ := mem_under.mp hp
      obtain ⟨k, v, rest', hk, rfl, -⟩ := mem_memberPositions.mp hq
      exact Or.inl (Text.lt_iff_bytes_lt.mp (hkey k (List.mem_map_of_mem (f := Prod.fst) hk)))

/-- The leaves of a tree, as they are listed without their paths. -/
theorem leaves_eq_map_positions (t : Tree α) : t.leaves = t.positions.map Prod.snd := by
  have hunder (step : Step) (leaves : List (Path × α)) :
      (under step leaves).map Prod.snd = leaves.map Prod.snd := by
    rw [under, List.map_map]
    rfl
  induction t using induction with
  | leaf content => rfl
  | seq items ih =>
    rw [leaves, positions]
    generalize 0 = index
    induction items generalizing index with
    | nil => rfl
    | cons item items ihs =>
      obtain ⟨ihitem, ihitems⟩ := List.forall_mem_cons.mp ih
      rw [itemLeaves, itemPositions, List.map_append, hunder, ihitem, ← ihs ihitems]
  | map members ih =>
    rw [leaves, positions]
    induction members with
    | nil => rfl
    | cons member members ihs =>
      obtain ⟨ihvalue, ihmembers⟩ := List.forall_mem_cons.mp ih
      rw [memberLeaves, memberPositions, List.map_append, hunder, ihvalue, ← ihs ihmembers]

/-- No two leaves have the same path. -/
theorem nodup_positions {t : Tree α} (ht : t.WellOrdered) : (t.positions.map Prod.fst).Nodup := by
  refine List.pairwise_map.mpr ((pairwise_positions ht).imp ?_)
  intro x y hxy heq
  rw [heq] at hxy
  exact hxy.asymm hxy

end Tree

end Stencil
