import Stencil.Proofs.BindingNames
import Stencil.Proofs.Compilation
import Stencil.Proofs.Concatenation
import Stencil.Proofs.Rewriting

/-!
# Filling in a variable

A variable can be replaced by a text in the document itself, before anything is read. If the text
is not empty and has no braces, every leaf stays a leaf, and the template that is read then renders
like the first one with the variable bound to the text, under both policies. The text keeps the
braces on both sides of the placeholder apart; where nothing is put, they can meet and make a
delimiter.
-/

namespace Stencil

namespace Leaf

open Text

/-- A text with `value` in place of every placeholder that holds `name`, with or without blanks. -/
def fill (name value : List Char) : List Char → List Char :=
  rewrite fun content =>
    if trim content = name then value else '{' :: '{' :: (content ++ ['}', '}'])

/-- The text of a leaf with `value` in place of the variable `name`. -/
def fillText (name value text : String) : String :=
  String.ofList (fill name.toList value.toList text.toList)

/-! ## The division of a filled text -/

namespace Division

/-- What runs, with `last` behind them, become with `value` in place of the placeholders that hold
    `name`. The literal texts on both sides of such a placeholder become one, with `value` between
    them. -/
def fillRuns (name value last : List Char) : List (List Char × Placeholder) → Division
  | [] => ⟨[], last⟩
  | (literal, p) :: runs =>
    if p.body.text = name then (fillRuns name value last runs).prepend (literal ++ value)
    else
      ⟨(literal, p) :: (fillRuns name value last runs).runs, (fillRuns name value last runs).last⟩

/-- A division with `value` in place of the placeholders that hold `name`. -/
def fill (name value : List Char) (d : Division) : Division := fillRuns name value d.last d.runs

theorem fill_cons_eq {name value : List Char} {p : Placeholder} (h : p.body.text = name)
    (literal : List Char) (runs : List (List Char × Placeholder)) (last : List Char) :
    fill name value ⟨(literal, p) :: runs, last⟩ =
      (fill name value ⟨runs, last⟩).prepend (literal ++ value) :=
  if_pos h

theorem fill_cons_ne {name value : List Char} {p : Placeholder} (h : p.body.text ≠ name)
    (literal : List Char) (runs : List (List Char × Placeholder)) (last : List Char) :
    fill name value ⟨(literal, p) :: runs, last⟩ =
      ⟨(literal, p) :: (fill name value ⟨runs, last⟩).runs, (fill name value ⟨runs, last⟩).last⟩ :=
  if_neg h

/-- The filled division is one of the filled text. -/
theorem Valid.text_fill {d : Division} (h : d.Valid) (name value : List Char) :
    (d.fill name value).text = Leaf.fill name value d.text := by
  rw [Leaf.fill, h.rewrite_text]
  induction d using Division.induction with
  | nil last => rfl
  | cons literal p runs last ih =>
    obtain ⟨hrun, hp, hd⟩ := valid_cons.mp h
    rw [List.flatMap_cons, List.append_assoc, ← ih hd, hp.trim]
    by_cases hname : p.body.text = name
    · rw [fill_cons_eq hname, if_pos hname, text_prepend, List.append_assoc]
    · rw [fill_cons_ne hname, if_neg hname, text_cons]
      simp

end Division

/-- A text that can stand in place of a placeholder: it is not empty, and it has no braces. -/
structure Fills (value : List Char) : Prop where
  ne_nil : value ≠ []
  no_brace : ∀ c ∈ value, c ≠ '{' ∧ c ≠ '}'

namespace Fills

variable {value : List Char} (h : Fills value)
include h

theorem delimiterFree : DelimiterFree value :=
  ⟨not_hasDouble_of_not_mem fun hm => (h.no_brace _ hm).1 rfl,
    not_hasDouble_of_not_mem fun hm => (h.no_brace _ hm).2 rfl⟩

theorem seamless_left (cs : List Char) : Seamless cs value :=
  fun c _ hc => h.no_brace c (List.mem_of_head? hc)

/-- Whatever comes before the text, its own last character is the one that counts. -/
theorem seamless_right (cs tail : List Char) : Seamless (cs ++ value) tail := by
  intro c hc _
  have hlast : value.getLast? = some c := by
    rw [List.getLast?_append, List.getLast?_eq_some_getLast h.ne_nil, Option.some_or] at hc
    rw [List.getLast?_eq_some_getLast h.ne_nil, hc]
  exact h.no_brace c (List.mem_of_getLast? hlast)

theorem valid_fill {d : Division} (hd : d.Valid) (name : List Char) :
    (d.fill name value).Valid := by
  induction d using Division.induction with
  | nil last => exact hd
  | cons literal p runs last ih =>
    obtain ⟨hrun, hp, hrest⟩ := Division.valid_cons.mp hd
    by_cases hname : p.body.text = name
    · -- Whatever the literal text behind starts with, it meets the last character of the value.
      rw [Division.fill_cons_eq hname]
      refine (ih hrest).prepend ?_ (h.seamless_right literal _)
      exact delimiterFree_append.mpr ⟨hrun.free, h.delimiterFree, h.seamless_left literal⟩
    · rw [Division.fill_cons_ne hname]
      exact Division.valid_cons.mpr ⟨hrun, hp, ih hrest⟩

end Fills

end Leaf

namespace VarPath

variable {name : String} {value : Json} {bindings : Bindings}

theorem resolve?_insert_self :
    resolve? ⟨name, []⟩ (bindings.insert name value) = some value := by
  rw [resolve?, Members.lookup_insert_self]
  rfl

theorem resolve?_insert_of_ne {path : VarPath} (h : path.root ≠ name) :
    path.resolve? (bindings.insert name value) = path.resolve? bindings :=
  resolve?_congr (Members.lookup_insert_of_ne h bindings)

/-- A path is written like a name exactly if it is that name and no more. -/
theorem Written.Valid.text_eq_iff {w : Written} (hw : w.Valid) (hn : '.' ∉ name.toList) :
    w.text = name.toList ↔ w.path = ⟨name, []⟩ := by
  obtain ⟨root, steps⟩ := w
  constructor
  · intro htext
    have hsplit := hw.split
    rw [htext, Text.split_of_not_mem hn, List.cons.injEq] at hsplit
    obtain ⟨hroot, hsteps⟩ := hsplit
    rw [Written.path, ← hroot, ← hsteps, String.ofList_toList, List.map_nil]
  · intro hpath
    rw [Written.path, VarPath.mk.injEq, List.map_eq_nil_iff] at hpath
    obtain ⟨hroot, hsteps⟩ := hpath
    rw [Written.text, hsteps, List.flatMap_nil, List.append_nil, ← hroot, String.toList_ofList]

/-- Wherever `name` is referred to, it is without steps. -/
def BareIn (name : String) (paths : List VarPath) : Prop :=
  ∀ path ∈ paths, path.root = name → path.steps = []

instance (name : String) (paths : List VarPath) : Decidable (BareIn name paths) :=
  inferInstanceAs (Decidable (∀ path ∈ paths, path.root = name → path.steps = []))

theorem BareIn.root_ne {paths : List VarPath} (h : BareIn name paths) {path : VarPath}
    (hm : path ∈ paths) (hne : path ≠ ⟨name, []⟩) : path.root ≠ name := by
  intro hroot
  have hsteps := h path hm hroot
  obtain ⟨root, steps⟩ := path
  exact hne (by rw [VarPath.mk.injEq]; exact ⟨hroot, hsteps⟩)

end VarPath

namespace Leaf

open VarPath

/-! ## Rendering a filled leaf -/

namespace Division

variable {name : String}

theorem render_segments_cons (literal : List Char) (p : Placeholder)
    (runs : List (List Char × Placeholder)) (last : List Char) (bindings : Bindings) :
    (ofSegments (segments ⟨(literal, p) :: runs, last⟩)).render bindings =
      String.ofList literal ++ ((p.body.path.inlineText? bindings).getD "" ++
        (ofSegments (segments ⟨runs, last⟩)).render bindings) :=
  join_segments_cons (fun _ => rfl) literal p runs last

theorem render_segments_prepend (literal : List Char) (d : Division) (bindings : Bindings) :
    (ofSegments (d.prepend literal).segments).render bindings =
      String.ofList literal ++ (ofSegments d.segments).render bindings := by
  rw [segments_prepend, render_glue, ← List.append_nil (literalSegments literal)]
  refine congrArg (· ++ _) ((join_literalSegments (fun _ => rfl) literal []).trans ?_)
  exact String.append_empty

theorem varPaths_segments_prepend (literal : List Char) (d : Division) :
    (ofSegments (d.prepend literal).segments).varPaths = (ofSegments d.segments).varPaths := by
  simp only [varPaths, ofSegments, filterMap_path?_segments]
  obtain ⟨runs, last⟩ := d
  cases runs <;> rfl

theorem varPaths_segments_cons (literal : List Char) (p : Placeholder)
    (runs : List (List Char × Placeholder)) (last : List Char) :
    (ofSegments (segments ⟨(literal, p) :: runs, last⟩)).varPaths =
      p.body.path :: (ofSegments (segments ⟨runs, last⟩)).varPaths := by
  simp only [varPaths, ofSegments, filterMap_path?_segments, List.map_cons]

section Fill

variable {d : Division} (hd : d.Valid) (hname : '.' ∉ name.toList) (value : String)
include hd hname

/-- The variables of a filled leaf are all but those that were filled in. -/
theorem Valid.varPaths_fill :
    (ofSegments (d.fill name.toList value.toList).segments).varPaths =
      (ofSegments d.segments).varPaths.filter (· ≠ ⟨name, []⟩) := by
  induction d using Division.induction with
  | nil last => simp [fill, fillRuns, varPaths, ofSegments, filterMap_path?_segments]
  | cons literal p runs last ih =>
    obtain ⟨-, hp, hrest⟩ := valid_cons.mp hd
    by_cases htext : p.body.text = name.toList
    · have hpath := (hp.body_valid.text_eq_iff hname).mp htext
      rw [fill_cons_eq htext, varPaths_segments_prepend, ih hrest, varPaths_segments_cons,
        List.filter_cons_of_neg (by simpa using hpath)]
    · have hpath := mt (hp.body_valid.text_eq_iff hname).mpr htext
      rw [fill_cons_ne htext, varPaths_segments_cons, ih hrest, varPaths_segments_cons,
        List.filter_cons_of_pos (by simpa using hpath)]

/-- A filled leaf is rendered like the leaf with the value bound. -/
theorem Valid.render_fill (hbare : BareIn name (ofSegments d.segments).varPaths)
    (bindings : Bindings) :
    (ofSegments (d.fill name.toList value.toList).segments).render bindings =
      (ofSegments d.segments).render (bindings.insert name (.str value)) := by
  induction d using Division.induction with
  | nil last =>
    rw [fill, fillRuns]
    exact (join_segments_nil (fun _ => rfl) last).trans (join_segments_nil (fun _ => rfl) last).symm
  | cons literal p runs last ih =>
    obtain ⟨-, hp, hrest⟩ := valid_cons.mp hd
    rw [varPaths_segments_cons] at hbare
    have hfilled := ih hrest fun path hm => hbare path (List.mem_cons_of_mem _ hm)
    by_cases htext : p.body.text = name.toList
    · have hpath := (hp.body_valid.text_eq_iff hname).mp htext
      rw [fill_cons_eq htext, render_segments_prepend, hfilled, render_segments_cons, hpath,
        inlineText?, resolve?_insert_self, String.ofList_append, String.ofList_toList,
        String.append_assoc]
      rfl
    · have hpath := mt (hp.body_valid.text_eq_iff hname).mpr htext
      have hroot := hbare.root_ne List.mem_cons_self hpath
      rw [fill_cons_ne htext, render_segments_cons, hfilled, render_segments_cons, inlineText?,
        inlineText?, resolve?_insert_of_ne hroot]

end Fill

end Division

/-- Once the value is bound, the first variable without a value is not among those filled in. -/
theorem firstUnresolved?_fill {leaf filled : Leaf} {name : String} {value : Json}
    (hpaths : filled.varPaths = leaf.varPaths.filter (· ≠ ⟨name, []⟩))
    (hbare : BareIn name leaf.varPaths) (bindings : Bindings) :
    filled.firstUnresolved? bindings =
      leaf.firstUnresolved? (bindings.insert name value) := by
  rw [firstUnresolved?, firstUnresolved?, hpaths, List.find?_filter]
  refine List.find?_congr fun path hm => ?_
  by_cases hpath : path = ⟨name, []⟩
  · have hresolves : Resolves ⟨name, []⟩ (bindings.insert name value) :=
      ⟨value, resolve?_insert_self⟩
    simp [hpath, hresolves]
  · have hresolves : path.Resolves (bindings.insert name value) ↔ path.Resolves bindings := by
      rw [Resolves, Resolves, resolve?_insert_of_ne (hbare.root_ne hm hpath)]
    simp [hpath, hresolves]

/-- A leaf stays a leaf when a text without braces is filled in. -/
theorem parse_fillText {s name value : String} {leaf : Leaf} (h : parse s = .ok leaf)
    (hname : '.' ∉ name.toList) (hvalue : Fills value.toList) :
    ∃ filled, parse (fillText name value s) = .ok filled ∧
      filled.varPaths = leaf.varPaths.filter (· ≠ ⟨name, []⟩) ∧
      (BareIn name leaf.varPaths → ∀ bindings,
        filled.render bindings = leaf.render (bindings.insert name (.str value)) ∧
          filled.renderStrict bindings =
            leaf.renderStrict (bindings.insert name (.str value))) := by
  obtain ⟨d, hd, htext, rfl⟩ := parse_eq_ok_iff.mp h
  have hpaths := hd.varPaths_fill hname value
  refine ⟨_, parse_eq_ok_iff.mpr ⟨_, hvalue.valid_fill hd name.toList, ?_, rfl⟩, hpaths, ?_⟩
  · rw [hd.text_fill, htext, fillText, String.toList_ofList]
  · intro hbare bindings
    have hrender := hd.render_fill hname value hbare bindings
    refine ⟨hrender, ?_⟩
    rw [renderStrict_eq_report, renderStrict_eq_report, hrender,
      firstUnresolved?_fill hpaths hbare]

end Leaf

/-- A document with `value` in place of the variable `name`, in all of its leaves. -/
def Document.fill (name value : String) (doc : Document) : Document :=
  doc.mapLeaves (Leaf.fillText name value)

namespace Template

open Leaf VarPath

variable {doc : Document} {template : Template} {name value : String}

section Filled

variable (h : (compile doc).value = .ok template) (hname : '.' ∉ name.toList)
  (hvalue : Fills value.toList)
include h hname hvalue

/-- What becomes of a leaf of the document. -/
theorem leafOf_fillText {text : String} (htext : text ∈ doc.leaves) :
    ∃ filled, Leaf.parse (fillText name value text) = .ok filled ∧
      filled.varPaths = (leafOf text).varPaths.filter (· ≠ ⟨name, []⟩) ∧
      (BareIn name template.varPaths → ∀ bindings,
        filled.render bindings = (leafOf text).render (bindings.insert name (.str value)) ∧
          filled.renderStrict bindings =
            (leafOf text).renderStrict (bindings.insert name (.str value))) := by
  obtain ⟨hleaves, rfl⟩ := compile_eq_ok_iff.mp h
  obtain ⟨leaf, hleaf⟩ := hleaves text htext
  obtain ⟨filled, hfilled, hpaths, hrender⟩ := parse_fillText hleaf hname hvalue
  rw [leafOf_of_parse hleaf]
  refine ⟨filled, hfilled, hpaths, fun hbare => hrender fun path hm => hbare path ?_⟩
  rw [varPaths, Tree.leaves_mapLeaves]
  refine List.mem_flatMap.mpr ⟨leaf, List.mem_map.mpr ⟨text, htext, ?_⟩, hm⟩
  exact leafOf_of_parse hleaf

theorem compile_fill :
    (compile (doc.fill name value)).value = .ok ((doc.fill name value).mapLeaves leafOf) := by
  rw [compile_eq_ok_iff, Document.fill, Tree.leaves_mapLeaves, List.forall_mem_map]
  refine ⟨fun text htext => ?_, rfl⟩
  obtain ⟨filled, hfilled, -⟩ := leafOf_fillText h hname hvalue htext
  exact ⟨filled, hfilled⟩

theorem varPaths_fill : varPaths ((doc.fill name value).mapLeaves leafOf) =
    template.varPaths.filter (· ≠ ⟨name, []⟩) := by
  obtain ⟨-, rfl⟩ := compile_eq_ok_iff.mp h
  rw [varPaths, varPaths, Document.fill, Tree.mapLeaves_mapLeaves, Tree.leaves_mapLeaves,
    Tree.leaves_mapLeaves, List.flatMap_map, List.flatMap_map, List.filter_flatMap]
  refine List.flatMap_congr fun text htext => ?_
  obtain ⟨filled, hfilled, hpaths, -⟩ := leafOf_fillText h hname hvalue htext
  rw [Function.comp_apply, leafOf_of_parse hfilled, hpaths]

variable (hbare : BareIn name template.varPaths)
include hbare

theorem bindingNames_fill : bindingNames ((doc.fill name value).mapLeaves leafOf) =
    template.bindingNames.filter (· ≠ name) := by
  refine (increasing_bindingNames _).eq_of_mem_iff
    ((increasing_bindingNames template).filter _) fun other => ?_
  rw [mem_bindingNames_iff, varPaths_fill h hname hvalue, List.mem_filter, mem_bindingNames_iff]
  simp only [List.mem_filter, decide_eq_true_eq]
  constructor
  · rintro ⟨path, ⟨hm, hne⟩, rfl⟩
    exact ⟨⟨path, hm, rfl⟩, hbare.root_ne hm hne⟩
  · rintro ⟨⟨path, hm, rfl⟩, hne⟩
    refine ⟨path, ⟨hm, ?_⟩, rfl⟩
    rintro rfl
    exact hne rfl

theorem render_fill (bindings : Bindings) :
    render ((doc.fill name value).mapLeaves leafOf) bindings =
      template.render (bindings.insert name (.str value)) := by
  obtain ⟨-, rfl⟩ := compile_eq_ok_iff.mp h
  simp only [render, Document.fill, Tree.mapLeaves_mapLeaves]
  refine Tree.mapLeaves_congr fun text htext => ?_
  obtain ⟨filled, hfilled, -, hrender⟩ := leafOf_fillText h hname hvalue htext
  simp only [Function.comp_apply, leafOf_of_parse hfilled]
  exact (hrender hbare bindings).1

theorem renderStrict_fill (bindings : Bindings) :
    renderStrict ((doc.fill name value).mapLeaves leafOf) bindings =
      template.renderStrict (bindings.insert name (.str value)) := by
  obtain ⟨-, rfl⟩ := compile_eq_ok_iff.mp h
  simp only [renderStrict, Document.fill, Tree.traverse_mapLeaves]
  refine Tree.traverse_congr (fun text htext path => ?_) []
  obtain ⟨filled, hfilled, -, hrender⟩ := leafOf_fillText h hname hvalue htext
  rw [leafOf_of_parse hfilled, (hrender hbare bindings).2]

end Filled

/-- Filling in a variable is the same as binding it: the filled document compiles too, it has the
    variable no more, and it renders as the first one does with the variable bound to the text. No
    name has a point, which would make it a path. An empty text does not do: `}{{x}}}` is a leaf,
    and `}}` is none. -/
theorem compile_fill_eq_insert (doc : Document) (template : Template) (name value : String)
    (h : (compile doc).value = .ok template) (hname : '.' ∉ name.toList)
    (hbare : BareIn name template.varPaths) (hne : value ≠ "")
    (hbrace : ∀ c ∈ value.toList, c ≠ '{' ∧ c ≠ '}') :
    ∃ filled, (compile (doc.fill name value)).value = .ok filled ∧
      filled.bindingNames = template.bindingNames.filter (· ≠ name) ∧
      ∀ bindings, filled.render bindings = template.render (bindings.insert name (.str value)) ∧
        ∀ policy, filled.renderWith bindings policy =
          template.renderWith (bindings.insert name (.str value)) policy := by
  have hvalue : Fills value.toList := ⟨mt String.toList_eq_nil_iff.mp hne, hbrace⟩
  refine ⟨_, compile_fill h hname hvalue, bindingNames_fill h hname hvalue hbare, ?_⟩
  intro bindings
  have hrender := render_fill h hname hvalue hbare bindings
  refine ⟨hrender, fun policy => ?_⟩
  cases policy with
  | lenient => exact congrArg Except.ok hrender
  | strict => exact renderStrict_fill h hname hvalue hbare bindings

/-- A document with a variable `x` between braces, and one with nothing around it. -/
def bracedDoc : Document :=
  .map [("a", .leaf "\x7d\x7b\x7b x \x7d\x7d\x7d\x7b\x7by\x7d\x7d"),
    ("b", .seq [.leaf "\x7b\x7bx\x7d\x7d\x7b\x7bx\x7d\x7d"])]

def bracedTemplate : Template :=
  .map [("a", .leaf (.ofSegments [.literal "\x7d", .placeholder ⟨"x", []⟩, .literal "\x7d",
      .placeholder ⟨"y", []⟩])),
    ("b", .seq [.leaf (.ofSegments [.placeholder ⟨"x", []⟩, .placeholder ⟨"x", []⟩])])]

theorem compile_fill_bracedDoc :
    bracedDoc.fill "x" "-" =
        .map [("a", .leaf "\x7d-\x7d\x7b\x7by\x7d\x7d"), ("b", .seq [.leaf "--"])] ∧
      ∃ filled, (compile (bracedDoc.fill "x" "-")).value = .ok filled ∧
        filled.bindingNames = ["y"] ∧
        filled.render [("y", .null)] = .map [("a", .leaf "\x7d-\x7d"), ("b", .seq [.leaf "--"])] ∧
        filled.renderWith [] .strict = .error (.unbound [.key "a"] ⟨"y", []⟩) := by
  have hcompile : (compile bracedDoc).value = .ok bracedTemplate := by decide +kernel
  obtain ⟨filled, hfilled, hnames, hrender⟩ := compile_fill_eq_insert bracedDoc bracedTemplate
    "x" "-" hcompile (by decide) (by decide) (by decide) (by simp)
  refine ⟨by decide +kernel, filled, hfilled, ?_, ?_, ?_⟩
  · rw [hnames]
    decide +kernel
  · rw [(hrender [("y", .null)]).1]
    decide +kernel
  · rw [(hrender []).2 .strict]
    rfl

end Template

end Stencil
