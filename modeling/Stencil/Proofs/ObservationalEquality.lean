import Stencil.Proofs.Compilation
import Stencil.Proofs.LeafGrammar
import Stencil.Proofs.Separation

/-!
# Templates that render alike

Two templates that render to the same documents under all bindings are equal. A leaf is a word of
symbols, each a character or a placeholder, and its text under some bindings is the word with values
for placeholders. Any two symbols have bindings under which their texts start with different
characters, so two words with the same texts are equal symbol by symbol. The segments of a leaf are
its word cut into literal texts as long as can be, and are therefore given by the word.
-/

namespace Stencil

namespace Leaf

/-- A character of literal text, or a placeholder. -/
inductive Symbol where
  | char (c : Char)
  | placeholder (path : VarPath)
  deriving DecidableEq

namespace Symbol

/-- The text of a symbol, with empty text for a variable that is not bound. -/
def text (bindings : Bindings) : Symbol → List Char
  | .char c => [c]
  | .placeholder path => ((path.inlineText? bindings).getD "").toList

/-! ## Symbols told apart -/

theorem head?_text_of_starts {bindings : Bindings} {path : VarPath} {c : Char}
    (h : path.Starts bindings c) : (text bindings (.placeholder path)).head? = some c := by
  obtain ⟨s, hs, hc⟩ := h
  rw [text, hs]
  exact hc

/-- Every symbol has a text that is not empty. -/
theorem exists_head?_eq_some (x : Symbol) :
    ∃ bindings, Bindings.WellOrdered bindings ∧ ∃ c, (x.text bindings).head? = some c := by
  cases x with
  | char c => exact ⟨[], Bindings.wellOrdered_nil, c, rfl⟩
  | placeholder path =>
    obtain ⟨bindings, hwell, hstarts⟩ := path.exists_starts 'x'
    exact ⟨bindings, hwell, 'x', head?_text_of_starts hstarts⟩

/-- A placeholder can be bound to a text that does not start like some literal text. -/
theorem exists_head?_ne_char (path : VarPath) (c : Char) :
    ∃ bindings, Bindings.WellOrdered bindings ∧
      ∃ d, d ≠ c ∧ (text bindings (.placeholder path)).head? = some d := by
  obtain ⟨d, hd⟩ : ∃ d, d ≠ c := by
    by_cases hc : c = 'x'
    · exact ⟨'y', by rw [hc]; decide⟩
    · exact ⟨'x', Ne.symm hc⟩
  obtain ⟨bindings, hwell, hstarts⟩ := path.exists_starts d
  exact ⟨bindings, hwell, d, hd, head?_text_of_starts hstarts⟩

/-- Different symbols have texts that start with different characters. -/
theorem exists_head?_ne {x y : Symbol} (h : x ≠ y) :
    ∃ bindings, Bindings.WellOrdered bindings ∧
      ∃ c d, c ≠ d ∧ (x.text bindings).head? = some c ∧ (y.text bindings).head? = some d := by
  cases x with
  | char c =>
    cases y with
    | char d =>
      exact ⟨[], Bindings.wellOrdered_nil, c, d, fun heq => h (congrArg char heq), rfl, rfl⟩
    | placeholder path =>
      obtain ⟨bindings, hwell, d, hd, hhead⟩ := exists_head?_ne_char path c
      exact ⟨bindings, hwell, c, d, hd.symm, rfl, hhead⟩
  | placeholder path =>
    cases y with
    | char c =>
      obtain ⟨bindings, hwell, d, hd, hhead⟩ := exists_head?_ne_char path c
      exact ⟨bindings, hwell, d, c, hd, hhead, rfl⟩
    | placeholder path' =>
      obtain ⟨bindings, hwell, c, d, hcd, hc, hd⟩ :=
        VarPath.exists_starts_ne fun heq => h (congrArg placeholder heq)
      exact ⟨bindings, hwell, c, d, hcd, head?_text_of_starts hc, head?_text_of_starts hd⟩

/-! ## Words told apart -/

theorem head?_flatMap_text {x : Symbol} (xs : List Symbol) {bindings : Bindings} {c : Char}
    (h : (x.text bindings).head? = some c) :
    ((x :: xs).flatMap (text bindings)).head? = some c := by
  rw [List.flatMap_cons, List.head?_append, h, Option.some_or]

/-- A word that is not empty has a text that is not empty. -/
theorem exists_flatMap_text_ne_nil (x : Symbol) (xs : List Symbol) :
    ∃ bindings, Bindings.WellOrdered bindings ∧ (x :: xs).flatMap (text bindings) ≠ [] := by
  obtain ⟨bindings, hwell, c, hc⟩ := x.exists_head?_eq_some
  refine ⟨bindings, hwell, ?_⟩
  intro hnil
  have hhead := head?_flatMap_text xs hc
  rw [hnil] at hhead
  cases hhead

/-- Words that have the same texts are equal. -/
theorem eq_of_flatMap_text_eq {xs ys : List Symbol}
    (h : ∀ bindings, Bindings.WellOrdered bindings →
      xs.flatMap (text bindings) = ys.flatMap (text bindings)) : xs = ys := by
  induction xs generalizing ys with
  | nil =>
    cases ys with
    | nil => rfl
    | cons y ys =>
      obtain ⟨bindings, hwell, hne⟩ := exists_flatMap_text_ne_nil y ys
      exact absurd (h bindings hwell).symm hne
  | cons x xs ih =>
    cases ys with
    | nil =>
      obtain ⟨bindings, hwell, hne⟩ := exists_flatMap_text_ne_nil x xs
      exact absurd (h bindings hwell) hne
    | cons y ys =>
      -- Were the first symbols different, some bindings would tell the texts apart at their first
      -- character. As they are not, their texts cancel under all bindings at once.
      obtain rfl : x = y := by
        by_contra hxy
        obtain ⟨bindings, hwell, c, d, hcd, hc, hd⟩ := exists_head?_ne hxy
        have hhead := congrArg List.head? (h bindings hwell)
        rw [head?_flatMap_text xs hc, head?_flatMap_text ys hd] at hhead
        exact hcd (Option.some.inj hhead)
      simp only [List.flatMap_cons, List.append_cancel_left_eq] at h
      rw [ih h]

end Symbol

/-! ## The word of a leaf -/

/-- The symbols of a segment. -/
def symbolsOf : Segment → List Symbol
  | .literal text => text.toList.map .char
  | .placeholder path => [.placeholder path]

theorem toList_render_segment (bindings : Bindings) (segment : Segment) :
    (segment.render bindings).toList = (symbolsOf segment).flatMap (Symbol.text bindings) := by
  cases segment with
  | literal text =>
    rw [symbolsOf, List.flatMap_map]
    exact (List.flatMap_singleton' text.toList).symm
  | placeholder path => rw [symbolsOf, List.flatMap_singleton]; rfl

/-- The text of a leaf is that of its word. -/
theorem toList_render (leaf : Leaf) (bindings : Bindings) :
    (leaf.render bindings).toList =
      (leaf.segments.flatMap symbolsOf).flatMap (Symbol.text bindings) := by
  rw [render, String.toList_join, List.flatMap_map, List.flatMap_assoc]
  simp only [toList_render_segment]

/-! ## Segments from their word -/

/-- Puts a character in front of segments, into the literal text they start with, if there is
    one. -/
def consChar (c : Char) : List Segment → List Segment
  | .literal text :: segments => .literal (String.ofList (c :: text.toList)) :: segments
  | segments => .literal (String.ofList [c]) :: segments

/-- Cuts a word into segments, with literal texts as long as can be. -/
def ofSymbols : List Symbol → List Segment
  | [] => []
  | .char c :: symbols => consChar c (ofSymbols symbols)
  | .placeholder path :: symbols => .placeholder path :: ofSymbols symbols

/-- Literal texts are not empty, and between any two of them is a placeholder. -/
structure Canonical (segments : List Segment) : Prop where
  literal_ne_empty : .literal "" ∉ segments
  literals_apart : ¬ Division.LiteralsMeet segments

theorem Canonical.tail {segment : Segment} {segments : List Segment}
    (h : Canonical (segment :: segments)) : Canonical segments := by
  refine ⟨fun hempty => h.literal_ne_empty (List.mem_cons_of_mem _ hempty), ?_⟩
  intro hmeet
  obtain ⟨a, b, hab⟩ := hmeet
  exact h.literals_apart ⟨a, b, hab.trans (List.suffix_cons segment segments).isInfix⟩

theorem ofSymbols_chars {symbols : List Symbol}
    (h : ∀ text segments, ofSymbols symbols ≠ .literal text :: segments) (c : Char)
    (cs : List Char) :
    ofSymbols ((c :: cs).map .char ++ symbols) =
      .literal (String.ofList (c :: cs)) :: ofSymbols symbols := by
  induction cs generalizing c with
  | nil =>
    show consChar c (ofSymbols symbols) = _
    unfold consChar
    split
    · rename_i text segments hsymbols
      exact absurd hsymbols (h text segments)
    · rfl
  | cons c' cs ih =>
    show consChar c (ofSymbols ((c' :: cs).map .char ++ symbols)) = _
    rw [ih, consChar, String.toList_ofList]

/-- Canonical segments are found again in their word. -/
theorem Canonical.ofSymbols_flatMap {segments : List Segment} (h : Canonical segments) :
    ofSymbols (segments.flatMap symbolsOf) = segments := by
  induction segments with
  | nil => rfl
  | cons segment segments ih =>
    have hrest := ih h.tail
    cases segment with
    | placeholder path =>
      show .placeholder path :: ofSymbols (segments.flatMap symbolsOf) = _
      rw [hrest]
    | literal text =>
      have hapart (text' : String) (more : List Segment) :
          ofSymbols (segments.flatMap symbolsOf) ≠ .literal text' :: more := by
        intro hmore
        rw [hrest] at hmore
        subst hmore
        exact h.literals_apart ⟨text, text', (List.prefix_append _ more).isInfix⟩
      cases htext : text.toList with
      | nil =>
        have hempty : text = "" := String.toList_eq_nil_iff.mp htext
        exact absurd List.mem_cons_self (hempty ▸ h.literal_ne_empty)
      | cons c cs =>
        rw [List.flatMap_cons, symbolsOf, htext, ofSymbols_chars hapart, hrest, ← htext,
          String.ofList_toList]

/-- Leaves of canonical segments that have the same texts are equal. -/
theorem eq_of_render_eq {l₁ l₂ : Leaf} (h₁ : Canonical l₁.segments) (h₂ : Canonical l₂.segments)
    (h : ∀ bindings, Bindings.WellOrdered bindings → l₁.render bindings = l₂.render bindings) :
    l₁ = l₂ := by
  have hword : l₁.segments.flatMap symbolsOf = l₂.segments.flatMap symbolsOf := by
    refine Symbol.eq_of_flatMap_text_eq fun bindings hwell => ?_
    rw [← toList_render, ← toList_render, h bindings hwell]
  refine ext_segments ?_
  calc l₁.segments = ofSymbols (l₁.segments.flatMap symbolsOf) := h₁.ofSymbols_flatMap.symm
    _ = ofSymbols (l₂.segments.flatMap symbolsOf) := by rw [hword]
    _ = l₂.segments := h₂.ofSymbols_flatMap

/-- What is read has canonical segments. -/
theorem canonical_of_parse {s : String} {leaf : Leaf} (h : parse s = .ok leaf) :
    Canonical leaf.segments := by
  obtain ⟨d, -, -, rfl⟩ := parse_eq_ok_iff.mp h
  exact ⟨d.literal_empty_not_mem, d.not_literalsMeet⟩

end Leaf

namespace Template

theorem canonical_leafOf (text : String) : Leaf.Canonical (leafOf text).segments := by
  cases h : Leaf.parse text with
  | ok leaf =>
    rw [leafOf_of_parse h]
    exact Leaf.canonical_of_parse h
  | error e =>
    rw [leafOf, h]
    refine ⟨List.not_mem_nil, ?_⟩
    intro hmeet
    obtain ⟨a, b, hab⟩ := hmeet
    cases List.eq_nil_of_infix_nil hab

theorem eq_mapLeaves_of_compile {doc : Document} {template : Template}
    (h : (compile doc).value = .ok template) : template = doc.mapLeaves leafOf :=
  (compile_eq_ok_iff.mp h).2

variable {d₁ d₂ : Document} {t₁ t₂ : Template}

/-- Templates are equal exactly if they render to the same document under all bindings. -/
theorem eq_iff_render_eq (h₁ : (compile d₁).value = .ok t₁) (h₂ : (compile d₂).value = .ok t₂) :
    t₁ = t₂ ↔
      ∀ bindings, Bindings.WellOrdered bindings → t₁.render bindings = t₂.render bindings := by
  constructor
  · intro heq bindings _
    rw [heq]
  · intro h
    obtain rfl := eq_mapLeaves_of_compile h₁
    obtain rfl := eq_mapLeaves_of_compile h₂
    have hleaf (a b : String) (hab : ∀ bindings, Bindings.WellOrdered bindings →
        (leafOf a).render bindings = (leafOf b).render bindings) : leafOf a = leafOf b :=
      Leaf.eq_of_render_eq (canonical_leafOf a) (canonical_leafOf b) hab
    have htree (bindings : Bindings) (hwell : bindings.WellOrdered) :
        d₁.mapLeaves (fun text => (leafOf text).render bindings) =
          d₂.mapLeaves fun text => (leafOf text).render bindings := by
      have hrender := h bindings hwell
      rwa [render, render, Tree.mapLeaves_mapLeaves, Tree.mapLeaves_mapLeaves] at hrender
    exact Tree.mapLeaves_eq_mapLeaves_of_ways ⟨[], Bindings.wellOrdered_nil⟩ hleaf htree

/-- A leaf that is the value of `a`, whatever that is. -/
def wholeLeaf : Document := .leaf "\x7b\x7ba\x7d\x7d"

/-- A leaf that is the JSON text of an object with the member `b` of `a`. -/
def memberLeaf : Document := .leaf "\x7b\"b\":\"\x7b\x7ba.b\x7d\x7d\"\x7d"

def wholeTemplate : Template := .leaf (.ofSegments [.placeholder ⟨"a", []⟩])

def memberTemplate : Template :=
  .leaf (.ofSegments [.literal "\x7b\"b\":\"", .placeholder ⟨"a", ["b"]⟩, .literal "\"\x7d"])

/-- The two render alike where `a` is an object whose only member `b` is the text `x`, but not under
    all bindings. -/
theorem render_ne_wholeTemplate :
    (compile wholeLeaf).value = .ok wholeTemplate ∧
      (compile memberLeaf).value = .ok memberTemplate ∧
      wholeTemplate.render [("a", .obj [("b", .str "x")])] =
        memberTemplate.render [("a", .obj [("b", .str "x")])] ∧
      ∃ bindings, Bindings.WellOrdered bindings ∧
        wholeTemplate.render bindings ≠ memberTemplate.render bindings := by
  have hwhole : (compile wholeLeaf).value = .ok wholeTemplate := by decide +kernel
  have hmember : (compile memberLeaf).value = .ok memberTemplate := by decide +kernel
  have hne : wholeTemplate ≠ memberTemplate := by decide
  refine ⟨hwhole, hmember, by decide +kernel, ?_⟩
  obtain ⟨bindings, hbindings⟩ := not_forall.mp ((eq_iff_render_eq hwhole hmember).not.mp hne)
  exact ⟨bindings, Classical.not_imp.mp hbindings⟩

end Template

end Stencil
