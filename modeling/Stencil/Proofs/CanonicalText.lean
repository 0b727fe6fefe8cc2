import Mathlib.Data.List.Basic
import Stencil.Proofs.Compilation
import Stencil.Proofs.Rewriting

/-!
# The canonical text of a leaf

Of the text of a leaf, reading forgets the blanks inside of placeholders and nothing else: without
them the text is read as the same leaf, and it is what the segments of the leaf are written as. So
leaves and templates are equal exactly if their canonical texts are.
-/

namespace Stencil

namespace Leaf

open Text VarPath

/-- A placeholder with the blanks at both ends of its content removed. -/
def tightened (content : List Char) : List Char := '{' :: '{' :: (trim content ++ ['}', '}'])

/-- A text without the blanks directly inside of its placeholders. -/
def canonicalText (text : String) : String := String.ofList (rewrite tightened text.toList)

end Leaf

/-- A segment as it is written: a literal text as it is, and a path between delimiters. -/
def Segment.source : Segment → String
  | .literal text => text
  | .placeholder path => "\x7b\x7b" ++ path.text ++ "\x7d\x7d"

namespace Leaf

open Text VarPath

/-- The segments of a leaf, written one after another. -/
def source (leaf : Leaf) : String := String.join (leaf.segments.map Segment.source)

/-! ## Divisions without blanks -/

namespace Placeholder

/-- The placeholder without blanks. -/
def bare (p : Placeholder) : Placeholder := ⟨[], p.body, []⟩

theorem Valid.bare {p : Placeholder} (h : p.Valid) : p.bare.Valid :=
  ⟨List.forall_mem_nil _, h.body_valid, List.forall_mem_nil _⟩

theorem Valid.text_bare {p : Placeholder} (h : p.Valid) : p.bare.text = tightened p.content := by
  rw [tightened, h.trim, text, content, Placeholder.bare, List.nil_append, List.append_nil]

/-- A placeholder without blanks is what its path is written as. -/
theorem source_path (p : Placeholder) :
    (Segment.placeholder p.body.path).source = String.ofList p.bare.text := by
  have hopen : "\x7b\x7b" = String.ofList ['{', '{'] := rfl
  have hclose : "\x7d\x7d" = String.ofList ['}', '}'] := rfl
  rw [Segment.source, Written.text_path, hopen, hclose, ← String.ofList_append,
    ← String.ofList_append, text, content, bare, List.nil_append, List.append_nil]
  rfl

end Placeholder

namespace Division

/-- The division without blanks in its placeholders. -/
def bare (d : Division) : Division := ⟨d.runs.map fun run => (run.1, run.2.bare), d.last⟩

theorem Valid.bare {d : Division} (h : d.Valid) : d.bare.Valid where
  run_free := List.forall_mem_map.mpr h.run_free
  run_getLast?_ne := List.forall_mem_map.mpr h.run_getLast?_ne
  placeholder_valid := List.forall_mem_map.mpr fun run hr => (h.placeholder_valid run hr).bare
  last_free := h.last_free

/-- The division without blanks has the same segments. -/
theorem segments_bare (d : Division) : d.bare.segments = d.segments := by
  rw [segments, segments, pieces, pieces, bare, List.flatMap_map]
  rfl

/-- The text without blanks is that of the division without blanks. -/
theorem Valid.text_bare {d : Division} (h : d.Valid) : d.bare.text = rewrite tightened d.text := by
  rw [h.rewrite_text, text, Division.bare, List.flatMap_map]
  refine congrArg (· ++ d.last) (List.flatMap_congr fun run hr => ?_)
  rw [(h.placeholder_valid run hr).text_bare]

/-- The segments are written as the text of the division without blanks. -/
theorem source_segments (d : Division) :
    (ofSegments d.segments).source = String.ofList d.bare.text := by
  have hliteral (text : String) : (Segment.literal text).source = text := rfl
  induction d using Division.induction with
  | nil last => exact join_segments_nil hliteral last
  | cons literal p runs last ih =>
    have htext : (bare ⟨(literal, p) :: runs, last⟩).text =
        literal ++ (p.bare.text ++ (bare ⟨runs, last⟩).text) := by
      rw [bare, List.map_cons, text_cons, ← p.bare.text_append]
      rfl
    rw [htext, String.ofList_append, String.ofList_append, ← p.source_path, ← ih]
    exact join_segments_cons hliteral literal p runs last

end Division

/-! ## Leaves and their canonical texts -/

theorem canonicalText_eq {s : String} {d : Division} (hd : d.Valid) (htext : d.text = s.toList) :
    canonicalText s = String.ofList d.bare.text := by
  rw [canonicalText, ← htext, hd.text_bare]

/-- The canonical text is read as the same leaf, and it is what the leaf is written as. -/
theorem parse_canonicalText {s : String} {leaf : Leaf} (h : parse s = .ok leaf) :
    parse (canonicalText s) = .ok leaf ∧ leaf.source = canonicalText s := by
  obtain ⟨d, hd, htext, rfl⟩ := parse_eq_ok_iff.mp h
  have hbare := canonicalText_eq hd htext
  refine ⟨parse_eq_ok_iff.mpr ⟨d.bare, hd.bare, ?_, ?_⟩, ?_⟩
  · rw [hbare, String.toList_ofList]
  · rw [d.segments_bare]
  · rw [hbare, d.source_segments]

end Leaf

namespace Template

open Leaf

theorem source_leafOf {text : String} (h : ∃ leaf, parse text = .ok leaf) :
    (leafOf text).source = canonicalText text := by
  obtain ⟨leaf, hleaf⟩ := h
  rw [leafOf_of_parse hleaf, (parse_canonicalText hleaf).2]

theorem leafOf_canonicalText {text : String} (h : ∃ leaf, parse text = .ok leaf) :
    leafOf (canonicalText text) = leafOf text := by
  obtain ⟨leaf, hleaf⟩ := h
  rw [leafOf_of_parse hleaf, leafOf_of_parse (parse_canonicalText hleaf).1]

/-- A template and the document of canonical texts that it was made from give each other. -/
theorem mapLeaves_canonicalText {doc : Document} {template : Template}
    (h : (compile doc).value = .ok template) :
    template.mapLeaves source = doc.mapLeaves canonicalText ∧
      (doc.mapLeaves canonicalText).mapLeaves leafOf = template := by
  obtain ⟨hleaves, rfl⟩ := compile_eq_ok_iff.mp h
  rw [Tree.mapLeaves_mapLeaves, Tree.mapLeaves_mapLeaves]
  constructor
  · exact Tree.mapLeaves_congr fun text htext => source_leafOf (hleaves text htext)
  · exact Tree.mapLeaves_congr fun text htext => leafOf_canonicalText (hleaves text htext)

/-- Compiled equality forgets the blanks inside of placeholders and nothing else. The canonical text
    of a leaf is its text with these blanks removed from the division; it is read as the same leaf,
    and the leaf is written as it. Templates are equal exactly if their documents are, with the
    canonical text in place of each leaf. -/
theorem eq_iff_canonicalText :
    (∀ s leaf, parse s = .ok leaf →
      (∃ d : Division, d.Valid ∧ d.text = s.toList ∧
        canonicalText s = String.ofList d.bare.text) ∧
      parse (canonicalText s) = .ok leaf ∧ leaf.source = canonicalText s) ∧
    ∀ d₁ d₂ t₁ t₂, (compile d₁).value = .ok t₁ → (compile d₂).value = .ok t₂ →
      (t₁ = t₂ ↔ d₁.mapLeaves canonicalText = d₂.mapLeaves canonicalText) := by
  constructor
  · intro s leaf h
    obtain ⟨d, hd, htext, -⟩ := parse_eq_ok_iff.mp h
    exact ⟨⟨d, hd, htext, canonicalText_eq hd htext⟩, parse_canonicalText h⟩
  · intro d₁ d₂ t₁ t₂ h₁ h₂
    obtain ⟨hsource₁, hleaf₁⟩ := mapLeaves_canonicalText h₁
    obtain ⟨hsource₂, hleaf₂⟩ := mapLeaves_canonicalText h₂
    constructor
    · rintro rfl
      exact hsource₁.symm.trans hsource₂
    · intro htexts
      rw [← hleaf₁, htexts, hleaf₂]

/-- Blanks stay where they are no part of a placeholder, and positions keep their zeros. -/
example : canonicalText " \x7b\x7b a.00\x7d\x7d \x7b\x7bb\t\x7d\x7d\x7d" =
    " \x7b\x7ba.00\x7d\x7d \x7b\x7bb\x7d\x7d\x7d" := by decide +kernel

end Template

end Stencil
