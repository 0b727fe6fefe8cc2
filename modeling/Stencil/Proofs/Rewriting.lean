import Stencil.Proofs.LeafGrammar

/-!
# Rewriting placeholders

Placeholders can be rewritten in the text of a leaf itself, before anything is read: each one runs
from `{{` to the first `}}` after it, and is replaced by what a function makes of its content. In a
text that has a division these are the placeholders of the division.
-/

namespace Stencil.Leaf

open Text

/-- A text with what `f` makes of their contents in place of all placeholders. A `{{` that nothing
    closes is left alone, with everything behind it. -/
def rewrite (f : List Char → List Char) : List Char → List Char
  | [] => []
  | '{' :: '{' :: inner =>
    match h : cutDouble? '}' inner with
    | some (content, rest) =>
      have : rest.length < inner.length + 2 := by
        have h' := cutDouble?_length h
        omega
      f content ++ rewrite f rest
    | none => '{' :: '{' :: inner
  | c :: cs => c :: rewrite f cs
termination_by cs => cs.length

variable (f : List Char → List Char)

theorem rewrite_cons {c : Char} {cs : List Char} (h : Seamless [c] cs) :
    rewrite f (c :: cs) = c :: rewrite f cs := by
  rw [rewrite]
  rintro inner rfl rfl
  exact (h '{' rfl rfl).1 rfl

/-- Literal text is left alone. -/
theorem rewrite_append {cs tail : List Char} (hf : DelimiterFree cs) (hs : Seamless cs tail) :
    rewrite f (cs ++ tail) = cs ++ rewrite f tail := by
  induction cs with
  | nil => rfl
  | cons c cs ih =>
    obtain ⟨hfree, hc⟩ := delimiterFree_cons.mp hf
    obtain ⟨hc', hs'⟩ := seamless_cons_append.mpr ⟨hc, hs⟩
    rw [List.cons_append, rewrite_cons f hc', ih hfree hs', List.cons_append]

theorem rewrite_literal {cs : List Char} (hf : DelimiterFree cs) : rewrite f cs = cs := by
  have hrewrite := rewrite_append f hf (seamless_nil_right cs)
  rw [rewrite, List.append_nil] at hrewrite
  exact hrewrite

theorem rewrite_closed {inner content rest : List Char}
    (h : cutDouble? '}' inner = some (content, rest)) :
    rewrite f ('{' :: '{' :: inner) = f content ++ rewrite f rest := by
  rw [rewrite]
  split
  next content' rest' hcut =>
    cases h.symm.trans hcut
    rfl
  next hcut => cases h.symm.trans hcut

theorem rewrite_unclosed {inner : List Char} (h : cutDouble? '}' inner = none) :
    rewrite f ('{' :: '{' :: inner) = '{' :: '{' :: inner := by
  rw [rewrite]
  split
  next content rest hcut => cases h.symm.trans hcut
  next => rfl

theorem rewrite_placeholder {content : List Char} (h : Enclosed content) (rest : List Char) :
    rewrite f ('{' :: '{' :: (content ++ '}' :: '}' :: rest)) = f content ++ rewrite f rest :=
  rewrite_closed f (h.cutDouble? rest)

/-- In the text of a division, its placeholders are rewritten and its literal texts stay. -/
theorem Division.Valid.rewrite_text {d : Division} (h : d.Valid) :
    rewrite f d.text = d.runs.flatMap (fun run => run.1 ++ f run.2.content) ++ d.last := by
  induction d using Division.induction with
  | nil last => exact rewrite_literal f h.last_free
  | cons literal p runs last ih =>
    obtain ⟨hrun, hp, hd⟩ := Division.valid_cons.mp h
    rw [Division.text_cons, rewrite_append f hrun.free (hrun.seamless _),
      rewrite_placeholder f hp.enclosed, ih hd, List.flatMap_cons, List.append_assoc,
      List.append_assoc]

end Stencil.Leaf
