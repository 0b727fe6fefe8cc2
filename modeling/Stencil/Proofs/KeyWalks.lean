import Mathlib.Order.Bounds.Defs
import Stencil.Rendered

/-!
# Walks along keys

A view that is walked key by key stands at a node as long as every key is there. From the first key
that is missing on, the scope has to cover every level that the walk still crosses. So a walk from
the root depends on the document only through the number of keys that can be followed, and through
the node that all of them lead to.
-/

namespace Stencil

namespace Tree

variable {α : Type}

/-- The node that several keys lead to, each one a key of the mapping that the keys before it lead
    to. -/
def below? : List String → Tree α → Option (Tree α)
  | [], t => some t
  | key :: keys, t => (t.child? key).bind (below? keys)

/-- The number of keys that can be followed before the first one that is missing. -/
def reach : List String → Tree α → Nat
  | [], _ => 0
  | key :: keys, t =>
    match t.child? key with
    | some child => reach keys child + 1
    | none => 0

/-- Some first keys can be followed exactly if there are no more of them than can be reached. -/
theorem below?_take_iff {keys : List String} {t : Tree α} {j : Nat} (hj : j ≤ keys.length) :
    (∃ node, t.below? (keys.take j) = some node) ↔ j ≤ t.reach keys := by
  induction keys generalizing t j with
  | nil =>
    obtain rfl : j = 0 := Nat.le_zero.mp hj
    exact iff_of_true ⟨t, rfl⟩ (Nat.le_refl 0)
  | cons key keys ih =>
    cases j with
    | zero => exact iff_of_true ⟨t, rfl⟩ (Nat.zero_le _)
    | succ j =>
      rw [List.take_succ_cons, below?, reach]
      cases t.child? key with
      | none => simp
      | some child =>
        rw [Option.bind_some, ih (Nat.le_of_succ_le_succ hj)]
        exact Nat.succ_le_succ_iff.symm

theorem reach_le_length (keys : List String) (t : Tree α) : t.reach keys ≤ keys.length := by
  induction keys generalizing t with
  | nil => exact Nat.le_refl 0
  | cons key keys ih =>
    rw [reach]
    cases t.child? key with
    | none => exact Nat.zero_le _
    | some child => exact Nat.succ_le_succ (ih child)

theorem isGreatest_reach (keys : List String) (t : Tree α) :
    IsGreatest {j | j ≤ keys.length ∧ ∃ node, t.below? (keys.take j) = some node}
      (t.reach keys) := by
  have hle := reach_le_length keys t
  exact ⟨⟨hle, (below?_take_iff hle).mpr (Nat.le_refl _)⟩,
    fun j hj => (below?_take_iff hj.1).mp hj.2⟩

theorem exists_below?_of_reach {keys : List String} {t : Tree α} (h : t.reach keys = keys.length) :
    ∃ node, t.below? keys = some node := by
  rw [← List.take_length (l := keys)]
  exact (below?_take_iff (Nat.le_refl _)).mpr (Nat.le_of_eq h.symm)

end Tree

namespace View

variable {scope : FallbackScope} {depth : Nat}

/-! ## One step -/

theorem get?_of_child {t child : Rendered} {key : String} (h : t.child? key = some child) :
    get? ⟨some t, scope, depth⟩ key = some ⟨some child, scope, depth + 1⟩ := by
  simp [get?, h]

theorem get?_of_missing {t : Rendered} {key : String} (h : t.child? key = none) :
    get? ⟨some t, scope, depth⟩ key = get? ⟨none, scope, depth⟩ key := by
  simp [get?, h]

theorem get?_defaulted (key : String) :
    get? ⟨none, scope, depth⟩ key =
      if scope.covers depth then some ⟨none, scope, depth + 1⟩ else none := rfl

/-! ## Several steps -/

theorem walk?_of_below? {keys : List String} {t node : Rendered} (h : t.below? keys = some node) :
    walk? keys ⟨some t, scope, depth⟩ = some ⟨some node, scope, depth + keys.length⟩ := by
  induction keys generalizing t depth with
  | nil =>
    cases h
    rfl
  | cons key keys ih =>
    obtain ⟨child, hchild, hnode⟩ := Option.bind_eq_some_iff.mp h
    rw [walk?, get?_of_child hchild, Option.bind_some, ih hnode, List.length_cons, Nat.add_assoc,
      Nat.add_comm 1]

/-- The scope covers every level from `depth` on that a walk along so many keys crosses. -/
def Covered (scope : FallbackScope) (depth count : Nat) : Prop :=
  ∀ i < count, scope.covers (depth + i) = true

theorem covered_succ {count : Nat} :
    Covered scope depth (count + 1) ↔
      scope.covers depth = true ∧ Covered scope (depth + 1) count := by
  constructor
  · intro h
    refine ⟨h 0 (Nat.zero_lt_succ _), fun i hi => ?_⟩
    rw [Nat.add_assoc, Nat.add_comm 1]
    exact h (i + 1) (Nat.succ_lt_succ hi)
  · intro hboth
    obtain ⟨hhere, hthere⟩ := hboth
    intro i hi
    cases i with
    | zero => exact hhere
    | succ i =>
      rw [Nat.add_comm i, ← Nat.add_assoc]
      exact hthere i (Nat.lt_of_succ_lt_succ hi)

instance (count : Nat) : Decidable (Covered scope depth count) :=
  inferInstanceAs (Decidable (∀ i < count, scope.covers (depth + i) = true))

/-- Below a missing key the walk goes on as long as the scope covers the levels. -/
theorem walk?_defaulted (keys : List String) :
    walk? keys ⟨none, scope, depth⟩ =
      if Covered scope depth keys.length then some ⟨none, scope, depth + keys.length⟩
      else none := by
  induction keys generalizing depth with
  | nil =>
    have hcovered : Covered scope depth 0 := fun i hi => absurd hi (Nat.not_lt_zero i)
    exact (if_pos hcovered).symm
  | cons key keys ih =>
    rw [walk?, get?_defaulted, List.length_cons]
    by_cases hhere : scope.covers depth = true
    · rw [if_pos hhere, Option.bind_some, ih, Nat.add_assoc, Nat.add_comm 1]
      simp only [covered_succ, hhere, true_and]
    · rw [if_neg hhere, if_neg fun h => hhere (covered_succ.mp h).1]
      rfl

/-- A walk that misses a key ends at a missing key if the scope covers the level of this key and all
    levels after it, and nowhere if not. -/
theorem walk?_of_reach_lt {keys : List String} {t : Rendered} (h : t.reach keys < keys.length) :
    walk? keys ⟨some t, scope, depth⟩ =
      if Covered scope (depth + t.reach keys) (keys.length - t.reach keys) then
        some ⟨none, scope, depth + keys.length⟩
      else none := by
  induction keys generalizing t depth with
  | nil => exact absurd h (Nat.not_lt_zero _)
  | cons key keys ih =>
    rw [Tree.reach] at h ⊢
    cases hchild : t.child? key with
    | some child =>
      rw [hchild] at h
      rw [walk?, get?_of_child hchild, Option.bind_some, ih (Nat.lt_of_succ_lt_succ h)]
      simp only [List.length_cons, Nat.add_sub_add_right, Nat.add_assoc, Nat.add_comm 1]
    | none =>
      -- The walk steps to the missing key just as it would from a missing key above it.
      have hstep : walk? (key :: keys) ⟨some t, scope, depth⟩ =
          walk? (key :: keys) ⟨none, scope, depth⟩ := by
        rw [walk?, walk?, get?_of_missing hchild]
      rw [hstep, walk?_defaulted]
      rfl

/-! ## The scopes -/

theorem covered_allDepths (depth count : Nat) : Covered .allDepths depth count :=
  fun _ _ => rfl

theorem not_covered_disabled {count : Nat} (h : 0 < count) : ¬Covered .disabled depth count :=
  fun hc => Bool.false_ne_true (hc 0 h)

/-- The scope of the top level covers a single step from the root, and no other walk. -/
theorem covered_topLevel_iff {count : Nat} (h : 0 < count) :
    Covered .topLevel depth count ↔ depth + count = 1 := by
  have hcovers (d : Nat) : FallbackScope.topLevel.covers d = true ↔ d = 0 := decide_eq_true_iff
  constructor
  · intro hc
    have hlast := (hcovers _).mp (hc (count - 1) (Nat.sub_lt h Nat.one_pos))
    omega
  · intro hone i hi
    exact (hcovers _).mpr (by omega)

/-- The view stands at the node, and reads as its text if it is a leaf and as nothing if not. -/
structure StandsAt (view : View) (node : Rendered) : Prop where
  node_eq : view.node = some node
  not_defaulted : view.isDefaulted = false
  text_leaf : ∀ text, node = .leaf text → view.text? = some text
  text_seq : ∀ items, node = .seq items → view.text? = none
  text_map : ∀ members, node = .map members → view.text? = none

theorem standsAt (node : Rendered) (scope : FallbackScope) (depth : Nat) :
    StandsAt ⟨some node, scope, depth⟩ node := by
  refine ⟨rfl, rfl, ?_, ?_, ?_⟩
  · rintro text rfl
    rfl
  · rintro items rfl
    rfl
  · rintro members rfl
    rfl

/-- The view stands at a missing key and reads as empty text. -/
structure StandsAtMissing (view : View) : Prop where
  defaulted : view.isDefaulted = true
  text_eq : view.text? = some ""

theorem standsAtMissing (scope : FallbackScope) (depth : Nat) :
    StandsAtMissing ⟨none, scope, depth⟩ := ⟨rfl, rfl⟩

/-- The text of a top-level key is what a view of the root reads under any scope. -/
theorem field_eq_textAt? (doc : Rendered) (scope : FallbackScope) (key : String) :
    doc.field key = ((root doc scope).textAt? key).getD "" := by
  rw [Rendered.field, textAt?, root]
  cases hchild : doc.child? key with
  | some child => rw [get?_of_child hchild, Option.bind_some, Option.bind_some, text?]
  | none =>
    rw [get?_of_missing hchild, get?_defaulted]
    split <;> rfl

/-- How far a document can be followed along some keys, and the scope, determine what a walk along
    them from the root ends at. -/
theorem walk?_determined (doc : Rendered) (scope : FallbackScope) (keys : List String) :
    (∃ m, IsGreatest {j | j ≤ keys.length ∧ ∃ node, doc.below? (keys.take j) = some node} m ∧
      (m = keys.length → ∃ node view, doc.below? keys = some node ∧
        (root doc scope).walk? keys = some view ∧ view.StandsAt node) ∧
      (m < keys.length →
        (scope = .disabled → (root doc scope).walk? keys = none) ∧
        (scope = .allDepths →
          ∃ view, (root doc scope).walk? keys = some view ∧ view.StandsAtMissing) ∧
        (scope = .topLevel → keys.length = 1 →
          ∃ view, (root doc scope).walk? keys = some view ∧ view.StandsAtMissing) ∧
        (scope = .topLevel → 1 < keys.length → (root doc scope).walk? keys = none))) ∧
    ∀ key, doc.field key = ((root doc scope).textAt? key).getD "" := by
  refine ⟨⟨doc.reach keys, doc.isGreatest_reach keys, fun hall => ?_, fun hlt => ?_⟩,
    field_eq_textAt? doc scope⟩
  · obtain ⟨node, hnode⟩ := Tree.exists_below?_of_reach hall
    exact ⟨node, _, hnode, walk?_of_below? hnode, standsAt node scope _⟩
  · have hpos : 0 < keys.length - doc.reach keys := Nat.sub_pos_of_lt hlt
    rw [root, walk?_of_reach_lt hlt]
    refine ⟨?_, ?_, ?_, ?_⟩
    · rintro rfl
      exact if_neg (not_covered_disabled hpos)
    · rintro rfl
      exact ⟨_, if_pos (covered_allDepths _ _), standsAtMissing _ _⟩
    · rintro rfl hone
      exact ⟨_, if_pos ((covered_topLevel_iff hpos).mpr (by omega)), standsAtMissing _ _⟩
    · rintro rfl hmore
      exact if_neg fun hc => absurd ((covered_topLevel_iff hpos).mp hc) (by omega)

end View

end Stencil
