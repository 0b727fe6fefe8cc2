import Stencil.Proofs.Traversal
import Stencil.Template.Basic

/-!
# Strict rendering

Under the strict policy, a template with a variable that is not bound fails at the first leaf that
has one, with the first such variable of that leaf. Without one, both policies render alike.
-/

namespace Stencil

/-- The path leads to a value, which may be `null`. -/
def VarPath.Resolves (x : VarPath) (bindings : Bindings) : Prop :=
  ∃ value, x.resolve? bindings = some value

namespace VarPath

variable {x : VarPath} {bindings : Bindings}

theorem not_resolves_iff : ¬x.Resolves bindings ↔ x.resolve? bindings = none := by
  rw [Resolves, ← Option.isSome_iff_exists, Option.not_isSome_iff_eq_none]

instance : Decidable (x.Resolves bindings) :=
  decidable_of_iff ((x.resolve? bindings).isSome = true) Option.isSome_iff_exists

theorem inlineText?_eq_none_iff : x.inlineText? bindings = none ↔ ¬x.Resolves bindings := by
  rw [inlineText?, Option.map_eq_none_iff, not_resolves_iff]

end VarPath

namespace Leaf

/-- The first path that is not bound. -/
def firstUnresolved? (leaf : Leaf) (bindings : Bindings) : Option VarPath :=
  leaf.varPaths.find? fun x => !decide (x.Resolves bindings)

theorem firstUnresolved?_eq_none_iff {leaf : Leaf} {bindings : Bindings} :
    leaf.firstUnresolved? bindings = none ↔ ∀ x ∈ leaf.varPaths, x.Resolves bindings := by
  simp [firstUnresolved?]

theorem firstUnresolved?_eq_some_iff {leaf : Leaf} {bindings : Bindings} {x : VarPath} :
    leaf.firstUnresolved? bindings = some x ↔
      ∃ xs ys, leaf.varPaths = xs ++ x :: ys ∧ (∀ y ∈ xs, y.Resolves bindings) ∧
        ¬x.Resolves bindings := by
  rw [firstUnresolved?, List.find?_eq_some_iff_append]
  simp only [Bool.not_eq_true', decide_eq_false_iff_not, Bool.not_not, decide_eq_true_eq]
  constructor
  · intro hfirst
    obtain ⟨hx, xs, ys, hl, hxs⟩ := hfirst
    exact ⟨xs, ys, hl, hxs, hx⟩
  · intro hfirst
    obtain ⟨xs, ys, hl, hxs, hx⟩ := hfirst
    exact ⟨hx, xs, ys, hl, hxs⟩

theorem renderStrict_segment (bindings : Bindings) (segment : Segment) :
    segment.renderStrict bindings =
      report (segment.path?.toList.find? fun x => !decide (x.Resolves bindings))
        (segment.render bindings) := by
  cases segment with
  | literal text => rfl
  | placeholder x =>
    rw [Segment.renderStrict, Segment.render, Segment.path?, Option.toList_some]
    cases h : x.inlineText? bindings with
    | none =>
      have hbad := VarPath.inlineText?_eq_none_iff.mp h
      simp [List.find?, hbad, report]
    | some text =>
      -- A value has a text whatever it is, so there is a text only if there is a value.
      have hbound : x.Resolves bindings := by
        by_cases hx : x.Resolves bindings
        · exact hx
        · rw [VarPath.inlineText?_eq_none_iff.mpr hx] at h
          cases h
      simp [List.find?, hbound, report]

theorem mapM_renderStrict (bindings : Bindings) (segments : List Segment) :
    segments.mapM (Segment.renderStrict bindings) =
      report ((segments.filterMap Segment.path?).find? fun x => !decide (x.Resolves bindings))
        (segments.map (Segment.render bindings)) := by
  induction segments with
  | nil => rfl
  | cons segment segments ih =>
    have hcons : (segment :: segments).filterMap Segment.path? =
        segment.path?.toList ++ segments.filterMap Segment.path? := by
      rw [List.filterMap_cons]
      cases segment.path? <;> rfl
    rw [List.mapM_cons, ih, renderStrict_segment, hcons, List.find?_append, List.map_cons]
    exact report_bind _ _ _ _ List.cons

/-- A leaf is rendered as under the lenient policy, unless it has a path that is not bound. -/
theorem renderStrict_eq_report (leaf : Leaf) (bindings : Bindings) :
    leaf.renderStrict bindings =
      report (leaf.firstUnresolved? bindings) (leaf.render bindings) := by
  rw [renderStrict, mapM_renderStrict, firstUnresolved?, varPaths]
  cases (leaf.segments.filterMap Segment.path?).find? fun x => !decide (x.Resolves bindings) <;> rfl

end Leaf

namespace Template

/-- At the path there is a leaf with a variable that is not bound. -/
def UnresolvedAt (template : Template) (bindings : Bindings) (path : Path) : Prop :=
  ∃ leaf x, template.at? path = some (.leaf leaf) ∧ x ∈ leaf.varPaths ∧ ¬x.Resolves bindings

/-- Renders one leaf under the strict policy. -/
def renderLeaf (bindings : Bindings) (path : Path) (leaf : Leaf) : Except TemplateError String :=
  (leaf.renderStrict bindings).mapError (.unbound path)

theorem renderLeaf_eq_report (bindings : Bindings) (path : Path) (leaf : Leaf) :
    renderLeaf bindings path leaf =
      report ((leaf.firstUnresolved? bindings).map (.unbound path)) (leaf.render bindings) := by
  rw [renderLeaf, Leaf.renderStrict_eq_report]
  cases leaf.firstUnresolved? bindings <;> rfl

theorem gives_renderLeaf (bindings : Bindings) :
    Tree.Gives (renderLeaf bindings) (Leaf.render · bindings) := by
  intro path leaf text h
  rw [renderLeaf_eq_report] at h
  exact (report_eq_ok_iff.mp h).2.symm

theorem renderLeaf_eq_error_iff {bindings : Bindings} {path : Path} {leaf : Leaf}
    {e : TemplateError} :
    renderLeaf bindings path leaf = .error e ↔
      ∃ x, leaf.firstUnresolved? bindings = some x ∧ e = .unbound path x := by
  rw [renderLeaf_eq_report, report_eq_error_iff, Option.map_eq_some_iff]
  simp only [eq_comm]

theorem failsAt_renderLeaf_iff {template : Template} {bindings : Bindings} {path : Path} :
    Tree.FailsAt (renderLeaf bindings) [] template path ↔ template.UnresolvedAt bindings path := by
  constructor
  · intro hfail
    obtain ⟨leaf, e, hat, he⟩ := hfail
    obtain ⟨x, hx, -⟩ := renderLeaf_eq_error_iff.mp he
    obtain ⟨xs, ys, hpaths, -, hbad⟩ := Leaf.firstUnresolved?_eq_some_iff.mp hx
    refine ⟨leaf, x, hat, ?_, hbad⟩
    rw [hpaths]
    exact List.mem_append_right xs List.mem_cons_self
  · intro hunresolved
    obtain ⟨leaf, x, hat, hmem, hbad⟩ := hunresolved
    have hne : leaf.firstUnresolved? bindings ≠ none := by
      intro hnone
      exact hbad (Leaf.firstUnresolved?_eq_none_iff.mp hnone x hmem)
    obtain ⟨y, hy⟩ := Option.ne_none_iff_exists'.mp hne
    exact ⟨leaf, _, hat, renderLeaf_eq_error_iff.mpr ⟨y, hy, rfl⟩⟩

/-- A template without an unbound variable renders alike under both policies. -/
theorem of_renderStrict_eq_ok {template : Template} {bindings : Bindings} {doc : Rendered}
    (h : template.renderStrict bindings = .ok doc) :
    (∀ p, ¬template.UnresolvedAt bindings p) ∧ doc = template.render bindings := by
  obtain ⟨hok, hdoc⟩ := Tree.of_traverse_eq_ok (gives_renderLeaf bindings) h
  exact ⟨fun p hp => hok p (failsAt_renderLeaf_iff.mpr hp), hdoc⟩

section WellOrdered

variable {template : Template} (ht : template.WellOrdered) {bindings : Bindings}
include ht

theorem renderStrict_eq_ok (h : ∀ p, ¬template.UnresolvedAt bindings p) :
    template.renderStrict bindings = .ok (template.render bindings) :=
  Tree.traverse_eq_ok (gives_renderLeaf bindings) ht fun p hp =>
    h p (failsAt_renderLeaf_iff.mp hp)

/-- The first leaf with an unbound variable is reported, with the first such variable in it. -/
theorem renderStrict_eq_error {p : Path} (hp : Path.First (template.UnresolvedAt bindings) p) :
    ∃ leaf x, template.at? p = some (.leaf leaf) ∧ leaf.firstUnresolved? bindings = some x ∧
      template.renderStrict bindings = .error (.unbound p x) := by
  have hfirst := (Path.first_congr fun _ => failsAt_renderLeaf_iff).mpr hp
  obtain ⟨leaf, e, hat, he⟩ := hfirst.holds
  obtain ⟨x, hx, rfl⟩ := renderLeaf_eq_error_iff.mp he
  refine ⟨leaf, x, hat, hx, ?_⟩
  exact (Tree.traverse_eq_error_iff (gives_renderLeaf bindings) ht).mpr
    ⟨p, leaf, hfirst, hat, he⟩

end WellOrdered

/-- The strict policy is the lenient one, but fails with the first unbound variable of the first
    leaf that has one. A variable bound to `null` is bound. -/
theorem renderWith_strict (template : Template) (ht : template.WellOrdered) (bindings : Bindings) :
    template.renderWith bindings .lenient = .ok (template.render bindings) ∧
    (∀ doc, template.renderWith bindings .strict = .ok doc ↔
      (∀ p leaf, template.at? p = some (.leaf leaf) → ∀ x ∈ leaf.varPaths, x.Resolves bindings) ∧
        doc = template.render bindings) ∧
    ((∃ p, template.UnresolvedAt bindings p) →
      ∃ p leaf xs x ys, Path.First (template.UnresolvedAt bindings) p ∧
        template.at? p = some (.leaf leaf) ∧ leaf.varPaths = xs ++ x :: ys ∧
        (∀ y ∈ xs, y.Resolves bindings) ∧ ¬x.Resolves bindings ∧
        template.renderWith bindings .strict = .error (.unbound p x) ∧
        x.unboundMessage = "undefined variable `" ++ ".".intercalate x.parts ++ "`") ∧
    ∀ x : VarPath, x.resolve? bindings = some .null →
      x.Resolves bindings ∧ x.inlineText? bindings = some "" := by
  have hall : (∀ p, ¬template.UnresolvedAt bindings p) ↔ ∀ p leaf,
      template.at? p = some (.leaf leaf) → ∀ x ∈ leaf.varPaths, x.Resolves bindings := by
    constructor
    · intro h p leaf hat x hx
      by_cases hbound : x.Resolves bindings
      · exact hbound
      · exact absurd ⟨leaf, x, hat, hx, hbound⟩ (h p)
    · intro h p hunresolved
      obtain ⟨leaf, x, hat, hx, hbad⟩ := hunresolved
      exact hbad (h p leaf hat x hx)
  refine ⟨rfl, fun doc => ?_, fun h => ?_, fun x hx => ⟨⟨.null, hx⟩, ?_⟩⟩
  · rw [← hall]
    constructor
    · exact of_renderStrict_eq_ok
    · intro hdoc
      obtain ⟨h, rfl⟩ := hdoc
      exact renderStrict_eq_ok ht h
  · obtain ⟨p, hp⟩ := Tree.exists_first ht (fun _ => failsAt_renderLeaf_iff) h
    obtain ⟨leaf, x, hat, hx, he⟩ := renderStrict_eq_error ht hp
    obtain ⟨xs, ys, hpaths, hxs, hbad⟩ := Leaf.firstUnresolved?_eq_some_iff.mp hx
    exact ⟨p, leaf, xs, x, ys, hp, hat, hpaths, hxs, hbad, he, rfl⟩
  · rw [VarPath.inlineText?, hx]
    rfl

/-- A template whose second leaf has a variable `x`, and then one with the path `y.z`. -/
def pairTemplate : Template :=
  .map [("a", .leaf (.ofSegments [.literal "a"])),
    ("b", .seq [.leaf (.ofSegments [.placeholder ⟨"x", []⟩, .placeholder ⟨"y", ["z"]⟩])])]

theorem renderWith_strict_pairTemplate :
    pairTemplate.WellOrdered ∧
      Path.First (pairTemplate.UnresolvedAt [("x", .null), ("y", .obj [])]) [.key "b", .index 0] ∧
      pairTemplate.renderWith [("x", .null), ("y", .obj [])] .strict =
        .error (.unbound [.key "b", .index 0] ⟨"y", ["z"]⟩) := by
  have ht : pairTemplate.WellOrdered := ⟨by decide, trivial, ⟨trivial, trivial⟩, trivial⟩
  have hresult : pairTemplate.renderWith [("x", .null), ("y", .obj [])] .strict =
      .error (.unbound [.key "b", .index 0] ⟨"y", ["z"]⟩) := rfl
  obtain ⟨p, leaf, xs, x, ys, hfirst, -, -, -, -, he, -⟩ :=
    (renderWith_strict pairTemplate ht [("x", .null), ("y", .obj [])]).2.2.1
      ⟨[.key "b", .index 0], _, ⟨"y", ["z"]⟩, rfl, by decide, by decide⟩
  rw [hresult, Except.error.injEq, TemplateError.unbound.injEq] at he
  rw [← he.1] at hfirst
  exact ⟨ht, hfirst, hresult⟩

end Template

end Stencil
