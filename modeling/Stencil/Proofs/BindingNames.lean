import Mathlib.Data.List.Find
import Mathlib.Data.List.Sort
import Stencil.Proofs.Separation
import Stencil.Proofs.StrictRendering

/-!
# The bindings that a template depends on

A template is rendered from the bindings it names and from nothing else, and under the strict policy
each of them is needed. All of them together are enough: objects inside objects give every path a
value at once, also where one path leads on from the end of another, and where names and positions
are members of one object.
-/

namespace Stencil

namespace Json

/-! ## One value for many paths -/

/-- Makes steps lead to a value, through objects that keep the members they have. -/
def graft : List String → Json → Json
  | [], value => value
  | step :: steps, value =>
    .obj (value.members.insert step (graft steps ((value.members.lookup step).getD (.obj []))))

/-- Objects all the way down, with their keys in increasing order. -/
inductive Nested : Json → Prop
  | obj (members : List (String × Json)) (increasing : Members.Increasing members)
    (values : ∀ member ∈ members, Nested member.2) : Nested (.obj members)

theorem nested_empty : Nested (.obj []) := .obj [] Members.increasing_nil fun _ hm => by cases hm

variable {value : Json}

theorem Nested.wellOrdered (h : Nested value) : value.WellOrdered := by
  induction h with
  | obj members increasing _ ih => exact ⟨increasing, wellOrderedMembers_iff.mpr ih⟩

theorem Nested.increasing (h : Nested value) : value.members.Increasing := by
  cases h with
  | obj _ increasing _ => exact increasing

theorem Nested.lookup {step : String} {child : Json} (h : Nested value)
    (hchild : value.members.lookup step = some child) : Nested child := by
  cases h with
  | obj members increasing values =>
    exact values (step, child) ((Members.mem_iff_lookup increasing).mpr hchild)

theorem Nested.child (h : Nested value) (step : String) :
    Nested ((value.members.lookup step).getD (.obj [])) := by
  cases hchild : value.members.lookup step with
  | none => exact nested_empty
  | some child => exact h.lookup hchild

theorem Nested.graft (h : Nested value) (steps : List String) : Nested (value.graft steps) := by
  induction steps generalizing value with
  | nil => exact h
  | cons step steps ih =>
    refine .obj _ (Members.increasing_insert h.increasing) ?_
    intro member hm
    rcases Members.of_mem_insert hm with rfl | hm
    · exact ih (h.child step)
    · exact h.lookup ((Members.mem_iff_lookup h.increasing).mp hm)

/-- Steps that lead to a value. -/
def Leads (steps : List String) (value : Json) : Prop := ∃ target, walk? steps value = some target

theorem leads_nil (value : Json) : Leads [] value := ⟨value, rfl⟩

/-- Steps into an object lead on from the member under the first one. -/
theorem leads_obj_iff {step : String} {steps : List String} {members : List (String × Json)} :
    Leads (step :: steps) (.obj members) ↔
      ∃ child, members.lookup step = some child ∧ Leads steps child := by
  simp only [Leads, walk?, step?, Option.bind_eq_some_iff]
  constructor
  · intro hleads
    obtain ⟨target, child, hchild, htarget⟩ := hleads
    exact ⟨child, hchild, target, htarget⟩
  · intro hleads
    obtain ⟨child, hchild, target, htarget⟩ := hleads
    exact ⟨target, child, hchild, htarget⟩

theorem leads_graft_self (steps : List String) (value : Json) :
    Leads steps (value.graft steps) := by
  induction steps generalizing value with
  | nil => exact leads_nil value
  | cons step steps ih =>
    exact leads_obj_iff.mpr ⟨_, Members.lookup_insert_self _, ih _⟩

/-- In objects, steps that led to a value still do. -/
theorem Nested.leads_graft (h : Nested value) {steps : List String} (hleads : Leads steps value)
    (other : List String) : Leads steps (value.graft other) := by
  induction other generalizing value steps with
  | nil => exact hleads
  | cons other others ih =>
    cases steps with
    | nil => exact leads_nil _
    | cons step steps =>
      obtain ⟨members, increasing, values⟩ := h
      obtain ⟨child, hchild, hsteps⟩ := leads_obj_iff.mp hleads
      by_cases hstep : step = other
      · subst hstep
        refine leads_obj_iff.mpr ⟨_, Members.lookup_insert_self _, ?_⟩
        have hbelow : (members.lookup step).getD (.obj []) = child := by rw [hchild]; rfl
        rw [Json.members, hbelow]
        exact ih (values (step, child) ((Members.mem_iff_lookup increasing).mpr hchild)) hsteps
      · refine leads_obj_iff.mpr ⟨child, ?_, hsteps⟩
        rw [Members.lookup_insert_of_ne hstep]
        exact hchild

end Json

namespace VarPath

variable {path : VarPath} {bindings : Bindings}

theorem resolves_iff_leads : path.Resolves bindings ↔ Json.Leads path.parts (.obj bindings) :=
  Iff.rfl

/-- Any number of paths have values in one object, whose keys are the names they start with. -/
theorem exists_resolves (paths : List VarPath) :
    ∃ bindings, Json.Nested (.obj bindings) ∧
      (∀ name, name ∈ Members.keys bindings ↔ ∃ path ∈ paths, path.root = name) ∧
      ∀ path ∈ paths, path.Resolves bindings := by
  induction paths with
  | nil => exact ⟨[], Json.nested_empty, by simp [Members.keys], by simp⟩
  | cons path paths ih =>
    obtain ⟨bindings, hnested, hkeys, hresolves⟩ := ih
    refine ⟨_, hnested.graft path.parts, ?_, ?_⟩
    · intro name
      rw [Members.mem_keys_insert, Json.members, hkeys]
      simp [eq_comm]
    · intro other hm
      rw [resolves_iff_leads]
      rcases List.mem_cons.mp hm with rfl | hm
      · exact Json.leads_graft_self other.parts _
      · exact hnested.leads_graft (resolves_iff_leads.mp (hresolves other hm)) path.parts

/-- The value of a path is found in the binding that it starts from. -/
theorem resolve?_congr {b₁ b₂ : Bindings} (h : b₁.lookup path.root = b₂.lookup path.root) :
    path.resolve? b₁ = path.resolve? b₂ := by
  rw [resolve?, resolve?, h]

theorem not_resolves_of_lookup (h : bindings.lookup path.root = none) :
    ¬path.Resolves bindings := by
  rw [not_resolves_iff, resolve?, h]
  rfl

end VarPath

namespace Leaf

variable {leaf : Leaf} {b₁ b₂ : Bindings}
  (h : ∀ path ∈ leaf.varPaths, b₁.lookup path.root = b₂.lookup path.root)
include h

/-- A leaf is rendered from the bindings that its variables start from. -/
theorem render_congr : leaf.render b₁ = leaf.render b₂ := by
  refine congrArg String.join (List.map_congr_left fun segment hm => ?_)
  cases segment with
  | literal text => rfl
  | placeholder path =>
    have hpath : path ∈ leaf.varPaths := List.mem_filterMap.mpr ⟨_, hm, rfl⟩
    rw [Segment.render, Segment.render, VarPath.inlineText?, VarPath.inlineText?,
      VarPath.resolve?_congr (h path hpath)]

theorem firstUnresolved?_congr : leaf.firstUnresolved? b₁ = leaf.firstUnresolved? b₂ := by
  refine List.find?_congr fun path hm => ?_
  refine congrArg Bool.not (decide_eq_decide.mpr ?_)
  rw [VarPath.Resolves, VarPath.Resolves, VarPath.resolve?_congr (h path hm)]

end Leaf

namespace Template

variable {template : Template} {bindings : Bindings}

/-! ## The names and the variables -/

/-- The paths of the variables of all leaves. -/
def varPaths (template : Template) : List VarPath := template.leaves.flatMap Leaf.varPaths

/-- The names are those that the paths of the variables start with. -/
theorem mem_bindingNames_iff {name : String} :
    name ∈ template.bindingNames ↔ ∃ path ∈ template.varPaths, path.root = name := by
  rw [bindingNames, Members.mem_keys_ofPairs, List.map_map, ← List.map_flatMap, List.mem_map,
    varPaths]
  simp

theorem increasing_bindingNames (template : Template) :
    template.bindingNames.Pairwise (· < ·) := Members.increasing_ofPairs _

/-! ## Strict rendering by the variables -/

/-- The strict policy, as a report about the listed leaves. -/
theorem renderStrict_eq_report (template : Template) (bindings : Bindings) :
    template.renderStrict bindings =
      report (Tree.firstFailure? (renderLeaf bindings) [] template.positions)
        (template.render bindings) :=
  Tree.traverse_eq_report (gives_renderLeaf bindings) template []

theorem mem_leaves_of_mem_positions {path : Path} {leaf : Leaf}
    (h : (path, leaf) ∈ template.positions) : leaf ∈ template.leaves := by
  rw [Tree.leaves_eq_map_positions]
  exact List.mem_map_of_mem (f := Prod.snd) h

theorem renderStrict_of_resolves (h : ∀ x ∈ template.varPaths, x.Resolves bindings) :
    template.renderStrict bindings = .ok (template.render bindings) := by
  rw [renderStrict_eq_report, report_eq_ok_iff]
  refine ⟨List.findSome?_eq_none_iff.mpr ?_, rfl⟩
  rintro ⟨path, leaf⟩ hm
  have hleaf : leaf.firstUnresolved? bindings = none := by
    refine Leaf.firstUnresolved?_eq_none_iff.mpr fun x hx => h x ?_
    exact List.mem_flatMap.mpr ⟨leaf, mem_leaves_of_mem_positions hm, hx⟩
  rw [renderLeaf_eq_report, hleaf]
  rfl

theorem renderStrict_of_not_resolves {x : VarPath} (hx : x ∈ template.varPaths)
    (hbad : ¬x.Resolves bindings) :
    ∃ path y, template.renderStrict bindings = .error (.unbound path y) := by
  obtain ⟨leaf, hleaf, hx⟩ := List.mem_flatMap.mp hx
  rw [Tree.leaves_eq_map_positions] at hleaf
  obtain ⟨⟨path, leaf⟩, hm, rfl⟩ := List.mem_map.mp hleaf
  have hunresolved : leaf.firstUnresolved? bindings ≠ none := fun hnone =>
    hbad (Leaf.firstUnresolved?_eq_none_iff.mp hnone x hx)
  obtain ⟨y, hy⟩ := Option.ne_none_iff_exists'.mp hunresolved
  have hfails : renderLeaf bindings path leaf = .error (.unbound path y) :=
    renderLeaf_eq_error_iff.mpr ⟨y, hy, rfl⟩
  have hfirst : Tree.firstFailure? (renderLeaf bindings) [] template.positions ≠ none := by
    intro hnone
    have hok := List.findSome?_eq_none_iff.mp hnone (path, leaf) hm
    rw [List.nil_append, failure?_eq_some_iff.mpr hfails] at hok
    cases hok
  obtain ⟨e, he⟩ := Option.ne_none_iff_exists'.mp hfirst
  obtain ⟨⟨path', leaf'⟩, -, hfail⟩ := List.exists_of_findSome?_eq_some he
  obtain ⟨z, -, rfl⟩ := renderLeaf_eq_error_iff.mp (failure?_eq_some_iff.mp hfail)
  exact ⟨_, z, by rw [renderStrict_eq_report, he, report]⟩

/-! ## What the names are -/

section Agree

variable {b₁ b₂ : Bindings} (h : ∀ name ∈ template.bindingNames, b₁.lookup name = b₂.lookup name)
include h

theorem lookup_eq_of_mem_leaves {leaf : Leaf} (hleaf : leaf ∈ template.leaves) :
    ∀ path ∈ leaf.varPaths, b₁.lookup path.root = b₂.lookup path.root := by
  intro path hpath
  refine h path.root (mem_bindingNames_iff.mpr ⟨path, ?_, rfl⟩)
  exact List.mem_flatMap.mpr ⟨leaf, hleaf, hpath⟩

theorem render_congr : template.render b₁ = template.render b₂ :=
  Tree.mapLeaves_congr fun _ hleaf => Leaf.render_congr (lookup_eq_of_mem_leaves h hleaf)

theorem renderStrict_congr : template.renderStrict b₁ = template.renderStrict b₂ := by
  refine Tree.traverse_congr (fun leaf hleaf path => ?_) []
  have hagree := lookup_eq_of_mem_leaves h hleaf
  rw [Leaf.renderStrict_eq_report, Leaf.renderStrict_eq_report, Leaf.render_congr hagree,
    Leaf.firstUnresolved?_congr hagree]

end Agree

/-- The names are exactly the bindings that a template depends on: bindings that agree on them are
    rendered alike, each of them is needed under the strict policy, and some bindings of these names
    and no others are enough. -/
theorem bindingNames_exact (template : Template) :
    (∀ b₁ b₂ : Bindings, (∀ name ∈ template.bindingNames, b₁.lookup name = b₂.lookup name) →
      template.render b₁ = template.render b₂ ∧
        ∀ policy, template.renderWith b₁ policy = template.renderWith b₂ policy) ∧
    (∀ name ∈ template.bindingNames, ∀ bindings : Bindings, bindings.lookup name = none →
      ∃ path x, template.renderWith bindings .strict = .error (.unbound path x)) ∧
    ∃ bindings, Bindings.WellOrdered bindings ∧ Members.keys bindings = template.bindingNames ∧
      ∃ doc, template.renderWith bindings .strict = .ok doc := by
  refine ⟨fun b₁ b₂ h => ⟨render_congr h, fun policy => ?_⟩, fun name hname bindings h => ?_, ?_⟩
  · cases policy with
    | lenient => exact congrArg Except.ok (render_congr h)
    | strict => exact renderStrict_congr h
  · obtain ⟨x, hx, rfl⟩ := mem_bindingNames_iff.mp hname
    exact renderStrict_of_not_resolves hx (VarPath.not_resolves_of_lookup h)
  · obtain ⟨bindings, hnested, hkeys, hresolves⟩ := VarPath.exists_resolves template.varPaths
    refine ⟨bindings, hnested.wellOrdered, ?_, _, renderStrict_of_resolves hresolves⟩
    refine hnested.increasing.eq_of_mem_iff (increasing_bindingNames template) fun name => ?_
    rw [mem_bindingNames_iff]
    exact hkeys name

end Template

end Stencil
