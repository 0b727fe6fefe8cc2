import Stencil.Proofs.JsonTrees

/-!
# What compilation reports

Compiling a JSON value takes two traversals: one that fails at nodes that are no string, array or
object, and, only if it succeeds, one that fails at malformed strings. So a bad node anywhere in the
value is reported before any malformed string.
-/

namespace Stencil

namespace Json

/-- Numbers, booleans and `null` have no place in a document. -/
def Unsupported (value : Json) : Prop := value.kind ∈ [Kind.number, .boolean, .null]

instance (value : Json) : Decidable value.Unsupported :=
  inferInstanceAs (Decidable (value.kind ∈ [Kind.number, .boolean, .null]))

/-- At the path there is a number, a boolean or `null`. -/
def UnsupportedAt (value : Json) (path : Path) : Prop :=
  ∃ node, value.at? path = some node ∧ node.Unsupported

/-- At the path there is a string that is not well formed as a leaf. -/
def MalformedAt (value : Json) (path : Path) : Prop :=
  ∃ text e, value.at? path = some (.str text) ∧ Leaf.parse text = .error e

theorem tree_eq_leaf_iff {value content : Json} :
    value.tree = .leaf content ↔ content = value ∧ value.kind ∉ [Kind.array, .object] := by
  cases value with
  | arr items => simp [tree, kind]
  | obj members => simp [tree, kind]
  | _ => simp [tree, kind, eq_comm]

/-- The leaves of the tree are the nodes that are no array or object. -/
theorem at?_tree_eq_leaf_iff {value content : Json} {path : Path} :
    value.tree.at? path = some (.leaf content) ↔
      value.at? path = some content ∧ content.kind ∉ [Kind.array, .object] := by
  rw [at?_tree, Option.map_eq_some_iff]
  constructor
  · intro hleaf
    obtain ⟨node, hnode, htree⟩ := hleaf
    obtain ⟨rfl, hkind⟩ := tree_eq_leaf_iff.mp htree
    exact ⟨hnode, hkind⟩
  · intro hleaf
    obtain ⟨hnode, hkind⟩ := hleaf
    exact ⟨content, hnode, tree_eq_leaf_iff.mpr ⟨rfl, hkind⟩⟩

end Json

/-! ## The traversal that checks shapes -/

namespace Document

theorem readLeaf_eq_error_iff {path : Path} {value : Json} {e : TemplateError} :
    value.kind ∉ [Kind.array, .object] ∧ readLeaf path value = .error e ↔
      value.Unsupported ∧ e = .unsupportedShape path value.kind := by
  cases value <;> simp [readLeaf, Json.Unsupported, Json.kind, eq_comm]

theorem failsAt_readLeaf_iff {value : Json} {path : Path} :
    Tree.FailsAt readLeaf [] value.tree path ↔ value.UnsupportedAt path := by
  constructor
  · intro hfail
    obtain ⟨node, e, hat, he⟩ := hfail
    obtain ⟨hnode, hkind⟩ := Json.at?_tree_eq_leaf_iff.mp hat
    exact ⟨node, hnode, (readLeaf_eq_error_iff.mp ⟨hkind, he⟩).1⟩
  · intro hunsupported
    obtain ⟨node, hnode, hbad⟩ := hunsupported
    obtain ⟨hkind, he⟩ := readLeaf_eq_error_iff.mpr ⟨hbad, rfl⟩
    exact ⟨node, _, Json.at?_tree_eq_leaf_iff.mpr ⟨hnode, hkind⟩, he⟩

/-- A value that has a document has strings for leaves. -/
theorem of_ofJson_eq_ok {value : Json} {doc : Document} (h : ofJson value = .ok doc) :
    (∀ p, ¬value.UnsupportedAt p) ∧ doc = value.document := by
  rw [ofJson, ofJsonAt_eq_traverse] at h
  obtain ⟨hok, hdoc⟩ := Tree.of_traverse_eq_ok gives_readLeaf h
  exact ⟨fun p hp => hok p (failsAt_readLeaf_iff.mpr hp), hdoc⟩

theorem ofJson_eq_ok {value : Json} (hv : value.WellOrdered) (h : ∀ p, ¬value.UnsupportedAt p) :
    ofJson value = .ok value.document := by
  rw [ofJson, ofJsonAt_eq_traverse]
  refine Tree.traverse_eq_ok gives_readLeaf (Json.wellOrdered_tree.mpr hv) fun p hp => ?_
  exact h p (failsAt_readLeaf_iff.mp hp)

/-- The first bad node is reported with its kind. -/
theorem ofJson_eq_error {value : Json} (hv : value.WellOrdered) {p : Path}
    (hp : Path.First value.UnsupportedAt p) :
    ∃ node, value.at? p = some node ∧ ofJson value = .error (.unsupportedShape p node.kind) := by
  obtain ⟨node, hnode, hbad⟩ := hp.holds
  obtain ⟨hkind, he⟩ := readLeaf_eq_error_iff.mpr ⟨hbad, rfl⟩
  refine ⟨node, hnode, ?_⟩
  rw [ofJson, ofJsonAt_eq_traverse,
    Tree.traverse_eq_error_iff gives_readLeaf (Json.wellOrdered_tree.mpr hv)]
  exact ⟨p, node, (Path.first_congr fun _ => failsAt_readLeaf_iff).mpr hp,
    Json.at?_tree_eq_leaf_iff.mpr ⟨hnode, hkind⟩, he⟩

/-- The leaves of a document are the strings of the value. -/
theorem at?_eq_leaf_iff {value : Json} (h : ∀ p, ¬value.UnsupportedAt p) {path : Path}
    {text : String} :
    value.document.at? path = some (.leaf text) ↔ value.at? path = some (.str text) := by
  rw [Json.at?_document, Option.map_eq_some_iff]
  constructor
  · intro hdoc
    obtain ⟨node, hnode, hleaf⟩ := hdoc
    cases node with
    | str s =>
      cases hleaf
      exact hnode
    | arr items => cases hleaf
    | obj members => cases hleaf
    -- Any other leaf is a bad node, and the value has none.
    | _ => exact absurd ⟨_, hnode, by simp [Json.Unsupported, Json.kind]⟩ (h path)
  · intro hnode
    exact ⟨.str text, hnode, rfl⟩

end Document

/-! ## The traversal that reads leaves -/

namespace Template

/-- Reads one leaf. -/
def readText (path : Path) (text : String) : Except TemplateError Leaf :=
  (Leaf.parse text).mapError (.malformedLeaf path)

/-- The leaf of a text, and a leaf without segments for a malformed text. -/
def leafOf (text : String) : Leaf := (Leaf.parse text).toOption.getD (.ofSegments [])

theorem leafOf_of_parse {text : String} {leaf : Leaf} (h : Leaf.parse text = .ok leaf) :
    leafOf text = leaf := by
  rw [leafOf, h]
  rfl

theorem gives_readText : Tree.Gives readText leafOf := by
  intro path text leaf h
  cases hparse : Leaf.parse text with
  | ok leaf' =>
    rw [readText, hparse] at h
    cases h
    exact leafOf_of_parse hparse
  | error e =>
    rw [readText, hparse] at h
    cases h

theorem readText_eq_error_iff {path : Path} {text : String} {e : TemplateError} :
    readText path text = .error e ↔
      ∃ e', Leaf.parse text = .error e' ∧ e = .malformedLeaf path e' := by
  rw [readText]
  cases Leaf.parse text with
  | ok leaf => simp [Except.mapError]
  | error e' => simp [Except.mapError, eq_comm]

end Template

/-- The template of a value, with leaves without segments where the value has none. -/
def Json.template (value : Json) : Template := value.document.mapLeaves Template.leafOf

theorem Json.at?_template (value : Json) (path : Path) :
    value.template.at? path = (value.at? path).map template := by
  rw [template, Tree.at?_mapLeaves, at?_document, Option.map_map]
  rfl

theorem Json.wellOrdered_template {value : Json} : value.template.WellOrdered ↔ value.WellOrdered :=
  Tree.wellOrdered_mapLeaves.trans wellOrdered_document

namespace Template

theorem value_compile (doc : Document) : (compile doc).value = doc.traverse readText [] := by
  have hread : ofDocument doc = doc.traverse readText [] := rfl
  rw [compile, hread]
  cases doc.traverse readText [] <;> rfl

/-- A document compiles exactly if all of its leaves are read. -/
theorem compile_eq_ok_iff {doc : Document} {template : Template} :
    (compile doc).value = .ok template ↔
      (∀ text ∈ doc.leaves, ∃ leaf, Leaf.parse text = .ok leaf) ∧
        template = doc.mapLeaves leafOf := by
  have hread (path : Path) (text : String) :
      (∃ leaf, readText path text = .ok leaf) ↔ ∃ leaf, Leaf.parse text = .ok leaf := by
    rw [readText]
    cases Leaf.parse text <;> simp [Except.mapError]
  rw [value_compile, Tree.traverse_eq_ok_iff gives_readText, Tree.leaves_eq_map_positions,
    List.forall_mem_map]
  simp only [hread]

/-- Compiling a value is reading its document and then the leaves of the document. -/
theorem compileJson_eq (value : Json) :
    (compileJson value).value =
      (do let doc ← Document.ofJson value; doc.traverse readText []) := by
  rw [compileJson]
  cases Document.ofJson value with
  | error e => rfl
  | ok doc => exact value_compile doc

theorem failsAt_readText_iff {value : Json} (h : ∀ p, ¬value.UnsupportedAt p) {path : Path} :
    Tree.FailsAt readText [] value.document path ↔ value.MalformedAt path := by
  constructor
  · intro hfail
    obtain ⟨text, e, hat, he⟩ := hfail
    obtain ⟨e', hparse, -⟩ := readText_eq_error_iff.mp he
    exact ⟨text, e', (Document.at?_eq_leaf_iff h).mp hat, hparse⟩
  · intro hmalformed
    obtain ⟨text, e, hat, hparse⟩ := hmalformed
    exact ⟨text, _, (Document.at?_eq_leaf_iff h).mpr hat,
      readText_eq_error_iff.mpr ⟨e, hparse, rfl⟩⟩

/-- A value that compiles has well-formed strings for leaves, and its template is made of them. -/
theorem of_compileJson_eq_ok {value : Json} {template : Template}
    (h : (compileJson value).value = .ok template) :
    (∀ p, ¬value.UnsupportedAt p) ∧ (∀ p, ¬value.MalformedAt p) ∧ template = value.template := by
  rw [compileJson_eq] at h
  cases hdoc : Document.ofJson value with
  | error e =>
    rw [hdoc] at h
    cases h
  | ok doc =>
    rw [hdoc] at h
    obtain ⟨hshape, rfl⟩ := Document.of_ofJson_eq_ok hdoc
    obtain ⟨hleaves, htemplate⟩ := Tree.of_traverse_eq_ok gives_readText h
    exact ⟨hshape, fun p hp => hleaves p ((failsAt_readText_iff hshape).mpr hp), htemplate⟩

section WellOrdered

variable {value : Json} (hv : value.WellOrdered)
include hv

/-- The template of a well-ordered value is well ordered. -/
theorem wellOrdered_of_compileJson {template : Template}
    (h : (compileJson value).value = .ok template) : template.WellOrdered := by
  obtain ⟨-, -, rfl⟩ := of_compileJson_eq_ok h
  exact Json.wellOrdered_template.mpr hv

theorem compileJson_eq_traverse (h : ∀ p, ¬value.UnsupportedAt p) :
    (compileJson value).value = value.document.traverse readText [] := by
  rw [compileJson_eq, Document.ofJson_eq_ok hv h]
  rfl

/-- A bad node is reported whatever the strings of the value are. -/
theorem compileJson_eq_unsupported {p : Path} (hp : Path.First value.UnsupportedAt p) :
    ∃ node, value.at? p = some node ∧
      (compileJson value).value = .error (.unsupportedShape p node.kind) := by
  obtain ⟨node, hnode, he⟩ := Document.ofJson_eq_error hv hp
  refine ⟨node, hnode, ?_⟩
  rw [compileJson_eq, he]
  rfl

/-- Without a bad node, the first malformed string is reported as it was rejected. -/
theorem compileJson_eq_malformed (h : ∀ p, ¬value.UnsupportedAt p) {p : Path}
    (hp : Path.First value.MalformedAt p) :
    ∃ text e, value.at? p = some (.str text) ∧ Leaf.parse text = .error e ∧
      (compileJson value).value = .error (.malformedLeaf p e) := by
  obtain ⟨text, e, hat, hparse⟩ := hp.holds
  refine ⟨text, e, hat, hparse, ?_⟩
  rw [compileJson_eq_traverse hv h,
    Tree.traverse_eq_error_iff gives_readText (Json.wellOrdered_document.mpr hv)]
  exact ⟨p, text, (Path.first_congr fun _ => failsAt_readText_iff h).mpr hp,
    (Document.at?_eq_leaf_iff h).mpr hat, readText_eq_error_iff.mpr ⟨e, hparse, rfl⟩⟩

/-- Without a bad node or a malformed string, there is a template. -/
theorem compileJson_eq_ok (h : ∀ p, ¬value.UnsupportedAt p) (hm : ∀ p, ¬value.MalformedAt p) :
    (compileJson value).value = .ok value.template := by
  rw [compileJson_eq_traverse hv h]
  refine Tree.traverse_eq_ok gives_readText (Json.wellOrdered_document.mpr hv) fun p hp => ?_
  exact hm p ((failsAt_readText_iff h).mp hp)

end WellOrdered

/-- Compilation reports the first bad node in document order, or else the first malformed string, or
    else succeeds. The path that it reports leads to the node. -/
theorem compileJson_reports_first (value : Json) (hv : value.WellOrdered) :
    ((∃ p, value.UnsupportedAt p) →
      ∃ p node, Path.First value.UnsupportedAt p ∧ value.at? p = some node ∧
        (compileJson value).value = .error (.unsupportedShape p node.kind)) ∧
    ((∀ p, ¬value.UnsupportedAt p) → (∃ p, value.MalformedAt p) →
      ∃ p text e, Path.First value.MalformedAt p ∧ value.at? p = some (.str text) ∧
        Leaf.parse text = .error e ∧
        (compileJson value).value = .error (.malformedLeaf p e)) ∧
    ((∀ p, ¬value.UnsupportedAt p) → (∀ p, ¬value.MalformedAt p) →
      ∃ template, (compileJson value).value = .ok template) := by
  refine ⟨fun hbad => ?_, fun h hm => ?_, fun h hm => ⟨_, compileJson_eq_ok hv h hm⟩⟩
  · have htree := Json.wellOrdered_tree.mpr hv
    obtain ⟨p, hp⟩ := Tree.exists_first htree (fun _ => Document.failsAt_readLeaf_iff) hbad
    obtain ⟨node, hnode, he⟩ := compileJson_eq_unsupported hv hp
    exact ⟨p, node, hp, hnode, he⟩
  · have hdoc := Json.wellOrdered_document.mpr hv
    obtain ⟨p, hp⟩ := Tree.exists_first hdoc (fun _ => failsAt_readText_iff h) hm
    obtain ⟨text, e, hat, hparse, he⟩ := compileJson_eq_malformed hv h hp
    exact ⟨p, text, e, hp, hat, hparse, he⟩

/-- A value with a malformed string before its first bad node. -/
def mixedValue : Json :=
  .obj [("a", .str "\x7b\x7b"), ("b", .arr [.str "x", .num (.int 1), .null])]

theorem compileJson_mixedValue :
    mixedValue.WellOrdered ∧ Path.First mixedValue.UnsupportedAt [.key "b", .index 1] ∧
      (compileJson mixedValue).value =
        .error (.unsupportedShape [.key "b", .index 1] .number) := by
  have hv : mixedValue.WellOrdered :=
    ⟨by decide, trivial, ⟨trivial, trivial, trivial, trivial⟩, trivial⟩
  have hresult : (compileJson mixedValue).value =
      .error (.unsupportedShape [.key "b", .index 1] .number) := rfl
  obtain ⟨p, node, hfirst, -, he⟩ := (compileJson_reports_first mixedValue hv).1
    ⟨[.key "b", .index 1], .num (.int 1), rfl, by decide⟩
  rw [hresult, Except.error.injEq, TemplateError.unsupportedShape.injEq] at he
  rw [← he.1] at hfirst
  exact ⟨hv, hfirst, hresult⟩

end Template

end Stencil
