import Stencil.Proofs.BindingNames
import Stencil.Proofs.Compilation
import Stencil.Proofs.LeafGrammar

/-!
# Round trips between documents and JSON

Reading a document and writing it are inverse to each other, whether the members of an object are
listed or inserted one after another. A document without delimiters is rendered as itself, so its
JSON value comes out of compilation and rendering as it went in.
-/

namespace Stencil

/-! ## Two ways to write a document -/

namespace Tree

theorem serializeItems_eq_map (items : List (Tree String)) :
    serializeItems items = items.map serialize := by
  induction items with
  | nil => rfl
  | cons item items ih => rw [serializeItems, ih, List.map_cons]

theorem serializeMembers_eq_map (members : List (String × Tree String)) :
    serializeMembers members = members.map fun member => (member.1, member.2.serialize) := by
  induction members with
  | nil => rfl
  | cons member members ih => rw [serializeMembers, ih, List.map_cons]

/-- Inserting the members of a mapping puts each of them where it was. -/
theorem serialize_eq_toJson {doc : Tree String} (h : doc.WellOrdered) :
    doc.serialize = doc.toJson := by
  induction doc using induction with
  | leaf text => rfl
  | seq items ih =>
    rw [WellOrdered, wellOrderedItems_iff] at h
    rw [serialize, toJson, serializeItems_eq_map, itemsToJson_eq_map,
      List.map_congr_left fun item hm => ih item hm (h item hm)]
  | map members ih =>
    rw [WellOrdered, wellOrderedMembers_iff] at h
    obtain ⟨hkeys, hvalues⟩ := h
    have hmembers : serializeMembers members = membersToJson members := by
      rw [serializeMembers_eq_map, membersToJson_eq_map]
      exact Members.map_congr fun member hm => ih member hm (hvalues member hm)
    have hincreasing : Members.Increasing (membersToJson members) := by
      rw [membersToJson_eq_map]
      exact (Members.increasing_map toJson members).mpr hkeys
    rw [serialize, toJson, hmembers, Json.ofPairs, Members.ofPairs_of_increasing hincreasing]

/-- The tree of a written document has its texts for leaves. -/
theorem tree_toJson (doc : Tree String) : doc.toJson.tree = doc.mapLeaves .str := by
  induction doc using induction with
  | leaf text => rfl
  | seq items ih =>
    rw [toJson, itemsToJson_eq_map, Json.tree, Json.itemTrees_eq_map, List.map_map, mapLeaves,
      mapItems_eq_map]
    exact congrArg seq (List.map_congr_left ih)
  | map members ih =>
    rw [toJson, membersToJson_eq_map, Json.tree, Json.memberTrees_eq_map, List.map_map, mapLeaves,
      mapMembers_eq_map]
    exact congrArg map (Members.map_congr (f := Json.tree ∘ toJson) ih)

end Tree

/-! ## Reading and writing -/

/-- A value that has only strings for leaves is its document, written. -/
theorem Json.toJson_document {value : Json} (h : ∀ leaf ∈ value.tree.leaves, leaf.kind = .string) :
    value.document.toJson = value := by
  induction value using induction with
  | str text => rfl
  | arr items ih =>
    rw [tree, Tree.leaves, Tree.itemLeaves_eq_flatMap, itemTrees_eq_map, List.flatMap_map] at h
    rw [document_arr, Tree.toJson, Tree.itemsToJson_eq_map, List.map_map]
    refine congrArg arr ((List.map_congr_left fun item hm => ?_).trans (List.map_id items))
    exact ih item hm fun leaf hl => h leaf (List.mem_flatMap.mpr ⟨item, hm, hl⟩)
  | obj members ih =>
    rw [tree, Tree.leaves, Tree.memberLeaves_eq_flatMap, memberTrees_eq_map, List.flatMap_map] at h
    rw [document_obj, Tree.toJson, Tree.membersToJson_eq_map, List.map_map]
    refine congrArg obj (Members.map_eq_self (f := Tree.toJson ∘ document) fun member hm => ?_)
    exact ih member hm fun leaf hl => h leaf (List.mem_flatMap.mpr ⟨member, hm, hl⟩)
  | _ => cases h _ (List.mem_singleton.mpr rfl)

namespace Document

/-- A value has a document exactly if it is that document, written. -/
theorem ofJson_eq_ok_iff {value : Json} {doc : Document} :
    ofJson value = .ok doc ↔ doc.toJson = value := by
  rw [ofJson, ofJsonAt_eq_traverse]
  constructor
  · intro hread
    obtain ⟨hleaves, rfl⟩ := (Tree.traverse_eq_ok_iff gives_readLeaf).mp hread
    refine Json.toJson_document ?_
    rw [Tree.leaves_eq_map_positions, List.forall_mem_map]
    rintro ⟨path, leaf⟩ hm
    obtain ⟨text, htext⟩ := hleaves (path, leaf) hm
    cases leaf with
    | str s => rfl
    | _ => cases htext
  · rintro rfl
    rw [Tree.tree_toJson, Tree.traverse_mapLeaves]
    refine (Tree.traverse_eq_ok_iff (g := id) ?_).mpr ⟨fun leaf _ => ⟨leaf.2, rfl⟩, ?_⟩
    · intro path text text' h
      exact Except.ok.inj h
    · exact (Tree.mapLeaves_id doc).symm

theorem toJson_injective : Function.Injective (Tree.toJson : Document → Json) := by
  intro doc doc' h
  have hdoc : ofJson doc.toJson = .ok doc := ofJson_eq_ok_iff.mpr rfl
  rw [ofJson_eq_ok_iff.mpr h.symm] at hdoc
  exact (Except.ok.inj hdoc).symm

/-- The document of a well-ordered value is well ordered. -/
theorem wellOrdered_of_ofJson {value : Json} {doc : Document} (hv : value.WellOrdered)
    (h : ofJson value = .ok doc) : doc.WellOrdered := by
  obtain ⟨-, rfl⟩ := of_ofJson_eq_ok h
  exact Json.wellOrdered_document.mpr hv

end Document

/-! ## Documents without variables -/

namespace Leaf

/-- The leaf of a text without delimiters: the text as a literal, if it is not empty. -/
def plain (text : String) : Leaf := ofSegments (Division.segments ⟨[], text.toList⟩)

theorem parse_of_delimiterFree {text : String} (h : DelimiterFree text.toList) :
    parse text = .ok (plain text) := by
  refine parse_eq_ok_iff.mpr ⟨⟨[], text.toList⟩, ?_, rfl, rfl⟩
  exact ⟨List.forall_mem_nil _, List.forall_mem_nil _, List.forall_mem_nil _, h⟩

theorem render_plain (text : String) (bindings : Bindings) :
    (plain text).render bindings = text :=
  (Division.join_segments_nil (fun _ => rfl) text.toList).trans String.ofList_toList

theorem varPaths_plain (text : String) : (plain text).varPaths = [] :=
  Division.filterMap_path?_segments ⟨[], text.toList⟩

end Leaf

namespace Template

section DelimiterFree

variable {doc : Document} (h : ∀ text ∈ doc.leaves, Leaf.DelimiterFree text.toList)
include h

theorem compile_of_delimiterFree : (compile doc).value = .ok (doc.mapLeaves leafOf) :=
  compile_eq_ok_iff.mpr ⟨fun text hm => ⟨_, Leaf.parse_of_delimiterFree (h text hm)⟩, rfl⟩

/-- Rendering gives the document that was compiled. -/
theorem render_of_delimiterFree (bindings : Bindings) :
    render (doc.mapLeaves leafOf) bindings = doc := by
  rw [render, Tree.mapLeaves_mapLeaves]
  refine (Tree.mapLeaves_congr fun text hm => ?_).trans (Tree.mapLeaves_id doc)
  rw [Function.comp_apply, leafOf_of_parse (Leaf.parse_of_delimiterFree (h text hm)),
    Leaf.render_plain, id]

theorem varPaths_of_delimiterFree : varPaths (doc.mapLeaves leafOf) = [] := by
  rw [varPaths, Tree.leaves_mapLeaves, List.flatMap_map, List.flatMap_eq_nil_iff]
  intro text hm
  rw [leafOf_of_parse (Leaf.parse_of_delimiterFree (h text hm)), Leaf.varPaths_plain]

/-- Without variables the policies agree. -/
theorem renderWith_of_delimiterFree (bindings : Bindings) (policy : Undefined) :
    renderWith (doc.mapLeaves leafOf) bindings policy = .ok doc := by
  have hrender := render_of_delimiterFree h bindings
  cases policy with
  | lenient => rw [renderWith, hrender]
  | strict =>
    have hresolves : ∀ x ∈ varPaths (doc.mapLeaves leafOf), x.Resolves bindings := by
      rw [varPaths_of_delimiterFree h]
      exact List.forall_mem_nil _
    rw [renderWith, renderStrict_of_resolves hresolves, hrender]

end DelimiterFree

end Template

namespace Document

/-- Documents and JSON values convert back and forth without loss, rendered documents are told apart
    by their JSON values, and a value without delimiters is rendered as itself. -/
theorem json_round_trips :
    (∀ value doc, value.WellOrdered → ofJson value = .ok doc →
      doc.WellOrdered ∧ doc.serialize = value) ∧
    (∀ doc : Document, doc.WellOrdered → ofJson doc.serialize = .ok doc) ∧
    (∀ rendered : Rendered, rendered.WellOrdered → rendered.toJson = rendered.serialize) ∧
    Function.Injective (Tree.toJson : Rendered → Json) ∧
    ∀ value doc, value.WellOrdered → ofJson value = .ok doc →
      (∀ path text, value.at? path = some (.str text) → Leaf.DelimiterFree text.toList) →
      ∃ template, (Template.compileJson value).value = .ok template ∧
        ∀ bindings, (template.render bindings).toJson = value ∧
          ∀ policy, ∃ rendered, template.renderWith bindings policy = .ok rendered ∧
            rendered.toJson = value := by
  refine ⟨?_, ?_, ?_, toJson_injective, ?_⟩
  · intro value doc hv h
    have hdoc := wellOrdered_of_ofJson hv h
    exact ⟨hdoc, (Tree.serialize_eq_toJson hdoc).trans (ofJson_eq_ok_iff.mp h)⟩
  · intro doc hdoc
    exact ofJson_eq_ok_iff.mpr (Tree.serialize_eq_toJson hdoc).symm
  · intro rendered hrendered
    exact (Tree.serialize_eq_toJson hrendered).symm
  · intro value doc hv h hfree
    have hjson := ofJson_eq_ok_iff.mp h
    have hleaves : ∀ text ∈ doc.leaves, Leaf.DelimiterFree text.toList := by
      have hdoc := wellOrdered_of_ofJson hv h
      obtain ⟨hshape, rfl⟩ := of_ofJson_eq_ok h
      rw [Tree.leaves_eq_map_positions, List.forall_mem_map]
      rintro ⟨path, text⟩ hm
      exact hfree path text ((at?_eq_leaf_iff hshape).mp ((Tree.mem_positions_iff hdoc).mp hm))
    refine ⟨doc.mapLeaves Template.leafOf, ?_, fun bindings => ⟨?_, fun policy => ?_⟩⟩
    · rw [Template.compileJson, h]
      exact Template.compile_of_delimiterFree hleaves
    · rw [Template.render_of_delimiterFree hleaves, hjson]
    · exact ⟨doc, Template.renderWith_of_delimiterFree hleaves bindings policy, hjson⟩

end Document

end Stencil
