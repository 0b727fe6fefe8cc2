import Stencil.Leaf.Render
import Stencil.Proofs.JsonTrees

/-!
# Bindings that tell paths apart

For two different paths there are bindings under which the texts of their values start with
different characters. If one path leads on from where the other ends, the value of the shorter one
is an object, and its text starts with a brace; otherwise the two can be bound independently.
-/

namespace Stencil

namespace Json

/-! ## Values made for paths -/

/-- The object in which the steps lead to `value` and to nothing else. -/
def nest (value : Json) : List String → Json
  | [] => value
  | step :: steps => .obj [(step, nest value steps)]

/-- The object in which two lists of steps, neither of them the start of the other, lead to one
    value each. -/
def fork (v w : Json) : List String → List String → Json
  | s :: ss, t :: ts =>
    if s = t then .obj [(s, fork v w ss ts)]
    else .obj (Members.insert s (nest v ss) [(t, nest w ts)])
  | _, _ => .null

theorem wellOrdered_obj_singleton {key : String} {value : Json} (h : value.WellOrdered) :
    (Json.obj [(key, value)]).WellOrdered :=
  ⟨List.pairwise_singleton _ _, h, trivial⟩

theorem wellOrdered_nest {value : Json} (h : value.WellOrdered) (steps : List String) :
    (nest value steps).WellOrdered := by
  induction steps with
  | nil => exact h
  | cons step steps ih => exact wellOrdered_obj_singleton ih

theorem wellOrdered_fork {v w : Json} (hv : v.WellOrdered) (hw : w.WellOrdered)
    (ss ts : List String) : (fork v w ss ts).WellOrdered := by
  fun_induction fork v w ss ts with
  | case1 s ss ts ih => exact wellOrdered_obj_singleton ih
  | case2 s ss t ts hne =>
    have hsingle : (Json.obj [(t, nest w ts)]).WellOrdered :=
      wellOrdered_obj_singleton (wellOrdered_nest hw ts)
    refine ⟨Members.increasing_insert hsingle.1, wellOrderedMembers_iff.mpr ?_⟩
    intro member hm
    rcases Members.of_mem_insert hm with rfl | hm
    · exact wellOrdered_nest hv ss
    · rw [List.mem_singleton.mp hm]
      exact wellOrdered_nest hw ts
  | case3 => trivial

/-- Steps on the way to the value lead to what is left of the way. -/
theorem walk?_nest (value : Json) (steps rest : List String) :
    walk? steps (nest value (steps ++ rest)) = some (nest value rest) := by
  induction steps with
  | nil => rfl
  | cons step steps ih =>
    simp only [List.cons_append, nest, walk?, step?, List.lookup_cons_self, Option.bind_some]
    exact ih

theorem walk?_fork {v w : Json} {ss ts : List String} (h : ¬ss <+: ts) (h' : ¬ts <+: ss) :
    walk? ss (fork v w ss ts) = some v ∧ walk? ts (fork v w ss ts) = some w := by
  fun_induction fork v w ss ts with
  | case1 s ss ts ih =>
    simp only [List.cons_prefix_cons, true_and] at h h'
    simp only [walk?, step?, List.lookup_cons_self, Option.bind_some]
    exact ih h h'
  | case2 s ss t ts hne =>
    have hs := walk?_nest v ss []
    have ht := walk?_nest w ts []
    rw [List.append_nil] at hs ht
    simp only [walk?, step?, Members.lookup_insert_self, Option.bind_some,
      Members.lookup_insert_of_ne (Ne.symm hne), List.lookup_cons_self]
    exact ⟨hs, ht⟩
  | case3 ss ts hother =>
    cases ss with
    | nil => exact absurd (List.nil_prefix) h
    | cons s ss =>
      cases ts with
      | nil => exact absurd (List.nil_prefix) h'
      | cons t ts => exact absurd rfl (hother s ss t ts rfl)

/-- The text of an object starts with a brace. -/
theorem head?_inlineText_obj (members : List (String × Json)) :
    (inlineText (.obj members)).toList.head? = some '{' := by
  simp [inlineText, text]

end Json

/-- Bindings that are a JSON object as it is read: keys in increasing order, at every depth. -/
def Bindings.WellOrdered (bindings : Bindings) : Prop := (Json.obj bindings).WellOrdered

theorem Bindings.wellOrdered_nil : Bindings.WellOrdered [] := ⟨List.Pairwise.nil, trivial⟩

namespace VarPath

/-! ## Paths told apart -/

/-- The text of the value of a path starts with the character `c`. -/
def Starts (bindings : Bindings) (path : VarPath) (c : Char) : Prop :=
  ∃ text, path.inlineText? bindings = some text ∧ text.toList.head? = some c

theorem resolve?_eq_walk? (path : VarPath) (bindings : Bindings) :
    path.resolve? bindings = Json.walk? path.parts (.obj bindings) := rfl

theorem starts_of_walk? {path : VarPath} {bindings : Bindings} {value : Json} {c : Char}
    (h : Json.walk? path.parts (.obj bindings) = some value)
    (hc : value.inlineText.toList.head? = some c) : Starts bindings path c :=
  ⟨value.inlineText, by rw [inlineText?, resolve?_eq_walk?, h]; rfl, hc⟩

theorem ext_parts {p q : VarPath} (h : p.parts = q.parts) : p = q := by
  obtain ⟨root, steps⟩ := p
  obtain ⟨root', steps'⟩ := q
  cases h
  rfl

/-- The text of a single character. -/
def mark (c : Char) : Json := .str (String.ofList [c])

theorem wellOrdered_mark (c : Char) : (mark c).WellOrdered := trivial

theorem head?_mark (c : Char) : (mark c).inlineText.toList.head? = some c := by
  simp [mark, Json.inlineText]

/-- The bindings under which a path leads to one character. -/
theorem exists_nest (path : VarPath) (c : Char) :
    ∃ bindings, Bindings.WellOrdered bindings ∧
      Json.nest (mark c) path.parts = .obj bindings := by
  refine ⟨[(path.root, Json.nest (mark c) path.steps)], ?_, rfl⟩
  exact Json.wellOrdered_obj_singleton (Json.wellOrdered_nest (wellOrdered_mark c) path.steps)

/-- A path can be bound to a text that starts with any character. -/
theorem exists_starts (path : VarPath) (c : Char) :
    ∃ bindings, Bindings.WellOrdered bindings ∧ Starts bindings path c := by
  obtain ⟨bindings, hwell, hnest⟩ := exists_nest path c
  have hwalk := Json.walk?_nest (mark c) path.parts []
  rw [List.append_nil, hnest] at hwalk
  exact ⟨bindings, hwell, starts_of_walk? hwalk (head?_mark c)⟩

/-- Where one path leads on from another, the shorter one leads to an object. -/
theorem exists_starts_of_prefix {p q : VarPath} (h : p ≠ q) (hpre : q.parts <+: p.parts) :
    ∃ bindings, Bindings.WellOrdered bindings ∧ Starts bindings p 'x' ∧ Starts bindings q '{' := by
  obtain ⟨rest, hrest⟩ := hpre
  obtain ⟨bindings, hwell, hnest⟩ := exists_nest p 'x'
  have hp := Json.walk?_nest (mark 'x') p.parts []
  have hq := Json.walk?_nest (mark 'x') q.parts rest
  rw [List.append_nil, hnest] at hp
  rw [hrest, hnest] at hq
  cases rest with
  | nil =>
    rw [List.append_nil] at hrest
    exact absurd (ext_parts hrest.symm) h
  | cons step steps =>
    exact ⟨bindings, hwell, starts_of_walk? hp (head?_mark 'x'),
      starts_of_walk? hq (Json.head?_inlineText_obj _)⟩

/-- Two paths of which neither leads on from the other are bound independently. -/
theorem exists_starts_of_not_prefix {p q : VarPath} (h : ¬p.parts <+: q.parts)
    (h' : ¬q.parts <+: p.parts) :
    ∃ bindings, Bindings.WellOrdered bindings ∧ Starts bindings p 'x' ∧ Starts bindings q 'y' := by
  have hwell := Json.wellOrdered_fork (wellOrdered_mark 'x') (wellOrdered_mark 'y') p.parts q.parts
  obtain ⟨hp, hq⟩ := Json.walk?_fork (v := mark 'x') (w := mark 'y') h h'
  obtain ⟨bindings, hfork⟩ :
      ∃ bindings, Json.fork (mark 'x') (mark 'y') p.parts q.parts = .obj bindings := by
    simp only [parts, Json.fork]
    split <;> exact ⟨_, rfl⟩
  rw [hfork] at hwell hp hq
  exact ⟨bindings, hwell, starts_of_walk? hp (head?_mark 'x'), starts_of_walk? hq (head?_mark 'y')⟩

/-- Different paths are told apart by the first character of the texts of their values. -/
theorem exists_starts_ne {p q : VarPath} (h : p ≠ q) :
    ∃ bindings, Bindings.WellOrdered bindings ∧
      ∃ c d, c ≠ d ∧ Starts bindings p c ∧ Starts bindings q d := by
  by_cases hqp : q.parts <+: p.parts
  · obtain ⟨bindings, hwell, hp, hq⟩ := exists_starts_of_prefix h hqp
    exact ⟨bindings, hwell, 'x', '{', by decide, hp, hq⟩
  · by_cases hpq : p.parts <+: q.parts
    · obtain ⟨bindings, hwell, hq, hp⟩ := exists_starts_of_prefix h.symm hpq
      exact ⟨bindings, hwell, '{', 'x', by decide, hp, hq⟩
    · obtain ⟨bindings, hwell, hp, hq⟩ := exists_starts_of_not_prefix hpq hqp
      exact ⟨bindings, hwell, 'x', 'y', by decide, hp, hq⟩

end VarPath

end Stencil
