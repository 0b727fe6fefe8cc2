import Stencil.Proofs.Placeholders

/-!
# The steps of scanning

What `scan` does with a text depends on how the text begins: literal text to its end, literal text
and a stray `}}`, literal text and a `{{` that nothing closes, or literal text and a placeholder.
Each text begins in one of these ways, and there is one equation for each.
-/

namespace Stencil.Leaf

open Text

/-- The text of a run of literal text that the next delimiter, which starts with `mark`, does not
    overlap. -/
structure Run (mark : Char) (literal : List Char) : Prop where
  free : DelimiterFree literal
  getLast?_ne : literal.getLast? ≠ some mark

theorem Run.seamless {mark : Char} {literal : List Char} (h : Run mark literal) (tail : List Char) :
    Seamless literal (mark :: tail) := by
  intro c hc hh
  obtain rfl : mark = c := by simpa using hh
  exact absurd hc h.getLast?_ne

theorem Run.of_seamless {mark : Char} {literal tail : List Char} (hm : mark = '{' ∨ mark = '}')
    (hf : DelimiterFree literal) (hs : Seamless literal (mark :: tail)) : Run mark literal := by
  refine ⟨hf, fun hl => ?_⟩
  rcases hm with rfl | rfl
  · exact (hs _ hl rfl).1 rfl
  · exact (hs _ hl rfl).2 rfl

theorem DelimiterFree.spanLiteral {cs : List Char} (h : DelimiterFree cs) :
    Leaf.spanLiteral cs = (cs, .finish) :=
  spanLiteral_eq_iff.mpr ⟨[], (List.append_nil cs).symm, h, seamless_nil_right cs, rfl⟩

theorem scan_finish {cs : List Char} (offset : Nat) (h : DelimiterFree cs) :
    scan offset cs = .ok (literalSegments cs) := by
  have hspan := h.spanLiteral
  rw [scan]
  split <;> rename_i hspan' <;> rw [hspan] at hspan' <;> cases hspan'
  rfl

theorem scan_closing {literal : List Char} (offset : Nat) (h : Run '}' literal)
    (rest : List Char) :
    scan offset (literal ++ '}' :: '}' :: rest) =
      .error ⟨offset + byteSize literal, .unbalancedClose⟩ := by
  have hspan : spanLiteral (literal ++ '}' :: '}' :: rest) = (literal, .closing) :=
    spanLiteral_eq_iff.mpr ⟨_, rfl, h.free, h.seamless _, rest, rfl⟩
  rw [scan]
  split <;> rename_i hspan' <;> rw [hspan] at hspan' <;> cases hspan'
  rfl

theorem Run.spanLiteral {literal : List Char} (h : Run '{' literal) (inner : List Char) :
    Leaf.spanLiteral (literal ++ '{' :: '{' :: inner) = (literal, .opening inner) :=
  spanLiteral_eq_iff.mpr ⟨_, rfl, h.free, h.seamless _, rfl⟩

theorem scan_unterminated {literal inner : List Char} (offset : Nat) (h : Run '{' literal)
    (hi : ¬ HasDouble '}' inner) :
    scan offset (literal ++ '{' :: '{' :: inner) =
      .error ⟨offset + byteSize literal, .unterminated⟩ := by
  have hspan := h.spanLiteral inner
  have hcut := cutDouble?_eq_none_iff.mpr hi
  rw [scan]
  split <;> rename_i hspan' <;> rw [hspan] at hspan' <;> cases hspan'
  simp only
  split <;> rename_i hcut' <;> rw [hcut] at hcut'
  cases hcut'

/-- The text of a placeholder runs to the first `}}`. -/
structure Enclosed (content : List Char) : Prop where
  free : ¬ HasDouble '}' content
  getLast?_ne : content.getLast? ≠ some '}'

theorem Placeholder.Valid.enclosed {p : Placeholder} (h : p.Valid) : Enclosed p.content := by
  have hm : '}' ∉ p.content := h.brace_not_mem (Or.inr rfl)
  exact ⟨not_hasDouble_of_not_mem hm, fun hl => hm (List.mem_of_getLast? hl)⟩

theorem Enclosed.cutDouble? {content : List Char} (h : Enclosed content) (rest : List Char) :
    Text.cutDouble? '}' (content ++ '}' :: '}' :: rest) = some (content, rest) :=
  cutDouble?_append rest h.free h.getLast?_ne

theorem scan_opening {literal content : List Char} (offset : Nat) (h : Run '{' literal)
    (hc : Enclosed content) (rest : List Char) :
    scan offset (literal ++ '{' :: '{' :: (content ++ '}' :: '}' :: rest)) =
      (readPlaceholder (offset + byteSize literal) content).bind fun path =>
        (scan (offset + byteSize literal + 2 + byteSize content + 2) rest).map fun segments =>
          literalSegments literal ++ .placeholder path :: segments := by
  have hspan := h.spanLiteral (content ++ '}' :: '}' :: rest)
  have hcut := hc.cutDouble? rest
  rw [scan]
  split <;> rename_i hspan' <;> rw [hspan] at hspan' <;> cases hspan'
  simp only
  split <;> rename_i hcut' <;> rw [hcut] at hcut' <;> cases hcut'
  rfl

/-- A fault in a text that begins with a placeholder is one of its content, or else one of the text
    after it. -/
theorem scan_opening_eq_error_iff {literal content rest : List Char} {offset : Nat}
    {e : SyntaxError} (h : Run '{' literal) (hc : Enclosed content) :
    scan offset (literal ++ '{' :: '{' :: (content ++ '}' :: '}' :: rest)) = .error e ↔
      readPlaceholder (offset + byteSize literal) content = .error e ∨
        (∃ path, readPlaceholder (offset + byteSize literal) content = .ok path) ∧
          scan (offset + byteSize literal + 2 + byteSize content + 2) rest = .error e := by
  rw [scan_opening offset h hc]
  cases readPlaceholder (offset + byteSize literal) content with
  | error e' => simp [Except.bind]
  | ok path =>
    cases scan (offset + byteSize literal + 2 + byteSize content + 2) rest <;>
      simp [Except.bind, Except.map]

/-- Every text begins in one of the four ways, so what holds of a text whatever its beginning is, if
    it holds of the text after a placeholder, holds of all texts. -/
theorem scan_induction {motive : List Char → Prop}
    (finish : ∀ cs, DelimiterFree cs → motive cs)
    (closing : ∀ literal rest, Run '}' literal → motive (literal ++ '}' :: '}' :: rest))
    (unterminated : ∀ literal inner, Run '{' literal → ¬ HasDouble '}' inner →
      motive (literal ++ '{' :: '{' :: inner))
    (opening : ∀ literal content rest, Run '{' literal → Enclosed content → motive rest →
      motive (literal ++ '{' :: '{' :: (content ++ '}' :: '}' :: rest)))
    (cs : List Char) : motive cs := by
  induction hn : cs.length using Nat.strongRecOn generalizing cs with
  | ind n ih =>
    cases hspan : Leaf.spanLiteral cs with
    | mk literal e =>
      obtain ⟨tail, rfl, hfree, hs, hb⟩ := spanLiteral_eq_iff.mp hspan
      cases e with
      | finish =>
        rw [hb, List.append_nil]
        exact finish literal hfree
      | closing =>
        obtain ⟨rest, rfl⟩ := hb
        exact closing literal rest (.of_seamless (Or.inr rfl) hfree hs)
      | opening inner =>
        rw [hb] at hs hn ⊢
        have hrun : Run '{' literal := .of_seamless (Or.inl rfl) hfree hs
        cases hcut : cutDouble? '}' inner with
        | none => exact unterminated literal inner hrun (cutDouble?_eq_none_iff.mp hcut)
        | some cut =>
          obtain ⟨content, rest⟩ := cut
          obtain ⟨rfl, hcf, hcl⟩ := cutDouble?_eq_some_iff.mp hcut
          have hlt : rest.length < n := by
            rw [← hn]
            simp only [List.length_append, List.length_cons]
            omega
          exact opening literal content rest hrun ⟨hcf, hcl⟩ (ih rest.length hlt rest rfl)

end Stencil.Leaf
