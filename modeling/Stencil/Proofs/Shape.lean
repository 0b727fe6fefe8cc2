import Mathlib.Data.Set.Card
import Stencil.Proofs.Compilation
import Stencil.Proofs.StrictRendering

/-!
# The shape of rendered documents

A document rendered from a JSON value has arrays, objects and texts where the value has arrays,
objects and strings: arrays of the same length, objects with the same keys, and for each string the
text that it is rendered as.
-/

namespace Stencil.Template

/-- At the path, `doc` has what `value` has, with the leaf of a string rendered. -/
structure SameShapeAt (bindings : Bindings) (value doc : Json) (path : Path) : Prop where
  str : (∃ text, doc.at? path = some (.str text)) ↔ ∃ s, value.at? path = some (.str s)
  text : ∀ s, value.at? path = some (.str s) →
    ∃ leaf, Leaf.parse s = .ok leaf ∧ doc.at? path = some (.str (leaf.render bindings))
  arr : ∀ n, (∃ items, doc.at? path = some (.arr items) ∧ items.length = n) ↔
    ∃ items, value.at? path = some (.arr items) ∧ items.length = n
  obj : ∀ keys, (∃ members, doc.at? path = some (.obj members) ∧ Members.keys members = keys) ↔
    ∃ members, value.at? path = some (.obj members) ∧ Members.keys members = keys
  nothing : doc.at? path = none ↔ value.at? path = none

/-- The JSON value of the rendered template of a value. -/
def renderJson (bindings : Bindings) (value : Json) : Json :=
  (value.template.render bindings).toJson

theorem at?_renderJson (bindings : Bindings) (value : Json) (path : Path) :
    (renderJson bindings value).at? path = (value.at? path).map (renderJson bindings) := by
  rw [renderJson, Tree.at?_toJson, render, Tree.at?_mapLeaves, Json.at?_template, Option.map_map,
    Option.map_map]
  rfl

theorem renderJson_str (bindings : Bindings) (s : String) :
    renderJson bindings (.str s) = .str ((leafOf s).render bindings) := rfl

theorem renderJson_arr (bindings : Bindings) (items : List Json) :
    renderJson bindings (.arr items) = .arr (items.map (renderJson bindings)) := by
  rw [renderJson, Json.template, Json.document_arr, Tree.mapLeaves, Tree.mapItems_eq_map, render,
    Tree.mapLeaves, Tree.mapItems_eq_map, Tree.toJson, Tree.itemsToJson_eq_map, List.map_map,
    List.map_map, List.map_map]
  rfl

theorem renderJson_obj (bindings : Bindings) (members : List (String × Json)) :
    renderJson bindings (.obj members) =
      .obj (members.map fun member => (member.1, renderJson bindings member.2)) := by
  rw [renderJson, Json.template, Json.document_obj, Tree.mapLeaves, Tree.mapMembers_eq_map, render,
    Tree.mapLeaves, Tree.mapMembers_eq_map, Tree.toJson, Tree.membersToJson_eq_map, List.map_map,
    List.map_map, List.map_map]
  rfl

variable {value : Json} {path : Path}

theorem sameShapeAt_renderJson (bindings : Bindings) (h : ∀ p, ¬value.UnsupportedAt p)
    (hm : ∀ p, ¬value.MalformedAt p) :
    SameShapeAt bindings value (renderJson bindings value) path := by
  have hdoc := at?_renderJson bindings value path
  cases hat : value.at? path with
  | none =>
    rw [hat, Option.map_none] at hdoc
    constructor <;> simp [hat, hdoc]
  | some node =>
    rw [hat, Option.map_some] at hdoc
    cases node with
    | str s =>
      rw [renderJson_str] at hdoc
      cases hparse : Leaf.parse s with
      | error e => exact absurd ⟨s, e, hat, hparse⟩ (hm path)
      | ok leaf =>
        rw [leafOf_of_parse hparse] at hdoc
        constructor <;> simp [hat, hdoc, hparse]
    | arr items =>
      rw [renderJson_arr] at hdoc
      constructor <;> simp [hat, hdoc]
    | obj members =>
      rw [renderJson_obj] at hdoc
      constructor <;> simp [hat, hdoc, Members.keys_map]
    | _ => exact absurd ⟨_, hat, by simp [Json.Unsupported, Json.kind]⟩ (h path)

/-- The template of a value has leaves where the value has strings. -/
theorem at?_template_eq_leaf_iff (h : ∀ p, ¬value.UnsupportedAt p) {leaf : Leaf} :
    value.template.at? path = some (.leaf leaf) ↔
      ∃ s, value.at? path = some (.str s) ∧ leafOf s = leaf := by
  rw [Json.template, Tree.at?_mapLeaves, Option.map_eq_some_iff]
  constructor
  · intro hdoc
    obtain ⟨node, hat, hleaf⟩ := hdoc
    cases node with
    | leaf s =>
      cases hleaf
      exact ⟨s, (Document.at?_eq_leaf_iff h).mp hat, rfl⟩
    | seq items => cases hleaf
    | map members => cases hleaf
  · intro hstr
    obtain ⟨s, hat, rfl⟩ := hstr
    exact ⟨.leaf s, (Document.at?_eq_leaf_iff h).mpr hat, rfl⟩

/-- A template has as many leaves as the value has strings. -/
theorem encard_strings (hv : value.WellOrdered) (h : ∀ p, ¬value.UnsupportedAt p) :
    {p | ∃ s, value.at? p = some (.str s)}.encard = value.template.leafCount := by
  have ht := Json.wellOrdered_template.mpr hv
  have hset : {p | ∃ s, value.at? p = some (.str s)} =
      ((value.template.positions.map Prod.fst).toFinset : Set Path) := by
    ext p
    rw [Set.mem_ofPred_eq, List.coe_toFinset, Set.mem_ofPred_eq, List.mem_map]
    constructor
    · intro hstr
      obtain ⟨s, hat⟩ := hstr
      have hleaf := (at?_template_eq_leaf_iff h).mpr ⟨s, hat, rfl⟩
      exact ⟨(p, leafOf s), (Tree.mem_positions_iff ht).mpr hleaf, rfl⟩
    · intro hlisted
      obtain ⟨⟨q, leaf⟩, hmem, rfl⟩ := hlisted
      obtain ⟨s, hat, -⟩ := (at?_template_eq_leaf_iff h).mp ((Tree.mem_positions_iff ht).mp hmem)
      exact ⟨s, hat⟩
  rw [hset, Set.encard_coe_eq_coe_finsetCard, List.toFinset_card_of_nodup (Tree.nodup_positions ht),
    List.length_map, Tree.leafCount, Tree.leaves_eq_map_positions, List.length_map]

/-- Rendering keeps the shape of the value that a template was made from and renders each of its
    strings, under either policy. The template has as many leaves as the value has strings. -/
theorem rendered_sameShape (value : Json) (template : Template)
    (h : (compileJson value).value = .ok template) :
    (∀ bindings p, SameShapeAt bindings value (template.render bindings).toJson p) ∧
    (∀ bindings policy doc, template.renderWith bindings policy = .ok doc →
      ∀ p, SameShapeAt bindings value doc.toJson p) ∧
    (value.WellOrdered →
      {p | ∃ s, value.at? p = some (.str s)}.encard = template.leafCount) := by
  obtain ⟨hshape, hleaves, rfl⟩ := of_compileJson_eq_ok h
  have hrender (bindings : Bindings) (p : Path) :
      SameShapeAt bindings value (value.template.render bindings).toJson p :=
    sameShapeAt_renderJson bindings hshape hleaves
  refine ⟨hrender, fun bindings policy doc hdoc p => ?_, fun hv => encard_strings hv hshape⟩
  cases policy with
  | lenient =>
    cases hdoc
    exact hrender bindings p
  | strict =>
    obtain ⟨-, rfl⟩ := of_renderStrict_eq_ok hdoc
    exact hrender bindings p

/-- An object with a leaf that has a variable, and an array with a leaf that has none. -/
def greetingValue : Json :=
  .obj [("a", .str "x\x7b\x7by\x7d\x7d"), ("b", .arr [.str "z"])]

/-- Its template. -/
def greetingTemplate : Template :=
  .map [("a", .leaf (.ofSegments [.literal "x", .placeholder ⟨"y", []⟩])),
    ("b", .seq [.leaf (.ofSegments [.literal "z"])])]

theorem rendered_sameShape_greeting :
    (compileJson greetingValue).value = .ok greetingTemplate ∧
      SameShapeAt [("y", .bool true)] greetingValue
        (.obj [("a", .str "xtrue"), ("b", .arr [.str "z"])]) [.key "b", .index 0] ∧
      {p | ∃ s, greetingValue.at? p = some (.str s)}.encard = 2 := by
  have hcompile : (compileJson greetingValue).value = .ok greetingTemplate := by decide +kernel
  have hv : greetingValue.WellOrdered := ⟨by decide, trivial, ⟨trivial, trivial⟩, trivial⟩
  obtain ⟨hrender, -, hcount⟩ := rendered_sameShape greetingValue greetingTemplate hcompile
  exact ⟨hcompile, hrender [("y", .bool true)] [.key "b", .index 0], hcount hv⟩

end Stencil.Template
