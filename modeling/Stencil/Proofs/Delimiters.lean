import Stencil.Leaf.Scan

/-!
# Delimiters in a text

A text is delimiter free if neither `{{` nor `}}` occurs in it. The first delimiter of a text is
found by `spanLiteral`, and the first occurrence of one doubled character by `cutDouble?`. Both
searches are described here by the way they divide the text, so that no later proof opens them.
-/

namespace Stencil

namespace Text

/-- The two-character text `mark mark` occurs in `cs`. -/
def HasDouble (mark : Char) (cs : List Char) : Prop := [mark, mark] <:+: cs

instance (mark : Char) (cs : List Char) : Decidable (HasDouble mark cs) :=
  inferInstanceAs (Decidable ([mark, mark] <:+: cs))

theorem not_hasDouble_nil (mark : Char) : ¬ HasDouble mark [] := by
  intro h
  simpa using h.length_le

theorem not_hasDouble_singleton (mark c : Char) : ¬ HasDouble mark [c] := by
  intro h
  simpa using h.length_le

theorem hasDouble_cons_cons {mark c d : Char} {cs : List Char} :
    HasDouble mark (c :: d :: cs) ↔ (c = mark ∧ d = mark) ∨ HasDouble mark (d :: cs) := by
  unfold HasDouble
  rw [List.infix_cons_iff, List.cons_prefix_cons, List.cons_prefix_cons]
  simp only [List.nil_prefix, and_true, eq_comm]

theorem not_hasDouble_of_not_mem {mark : Char} {cs : List Char} (h : mark ∉ cs) :
    ¬ HasDouble mark cs :=
  fun hd => h (hd.subset (by simp))

/-- A doubled character in an append lies on one side or across the seam. -/
theorem hasDouble_append {mark : Char} {cs ds : List Char} :
    HasDouble mark (cs ++ ds) ↔
      HasDouble mark cs ∨ HasDouble mark ds ∨ cs.getLast? = some mark ∧ ds.head? = some mark := by
  induction cs with
  | nil => simp [not_hasDouble_nil]
  | cons c cs ih =>
    cases cs with
    | nil =>
      cases ds with
      | nil => simp [not_hasDouble_nil]
      | cons d ds =>
        rw [List.singleton_append, hasDouble_cons_cons]
        simp only [not_hasDouble_singleton, List.getLast?_singleton, List.head?_cons,
          Option.some.injEq, false_or]
        exact or_comm
    | cons c' cs =>
      rw [List.cons_append, List.cons_append, hasDouble_cons_cons, hasDouble_cons_cons, or_assoc,
        ← List.cons_append, ih, List.getLast?_cons_cons]

theorem cutDouble?_append {mark : Char} {before : List Char} (after : List Char)
    (hn : ¬ HasDouble mark before) (hl : before.getLast? ≠ some mark) :
    cutDouble? mark (before ++ mark :: mark :: after) = some (before, after) := by
  induction before with
  | nil => simp [cutDouble?]
  | cons c before ih =>
    cases before with
    | nil =>
      have hc : c ≠ mark := by simpa using hl
      simp [cutDouble?, hc]
    | cons d before =>
      rw [hasDouble_cons_cons, not_or] at hn
      rw [List.getLast?_cons_cons] at hl
      simp only [List.cons_append] at ih ⊢
      rw [cutDouble?, if_neg hn.1, ih hn.2 hl]
      rfl

/-- The cut is at the first place where the character stands twice. -/
theorem cutDouble?_eq_some_iff {mark : Char} {cs before after : List Char} :
    cutDouble? mark cs = some (before, after) ↔
      cs = before ++ mark :: mark :: after ∧ ¬ HasDouble mark before ∧
        before.getLast? ≠ some mark := by
  refine ⟨?_, fun ⟨h, hn, hl⟩ => h ▸ cutDouble?_append after hn hl⟩
  intro h
  fun_induction cutDouble? mark cs generalizing before with
  | case1 => cases h
  | case2 => cases h
  | case3 c d cs hcd =>
    obtain ⟨rfl, rfl⟩ := hcd
    cases h
    exact ⟨rfl, not_hasDouble_nil _, by simp⟩
  | case4 c d cs hcd ih =>
    obtain ⟨⟨before', after'⟩, hp, he⟩ := Option.map_eq_some_iff.mp h
    cases he
    obtain ⟨hcs, hn, hl⟩ := ih hp
    -- Whether `c` and the character after it are the double is known only once the latter is seen.
    cases before' with
    | nil =>
      cases hcs
      exact ⟨rfl, not_hasDouble_singleton _ _, fun hc => hcd ⟨by simpa using hc, rfl⟩⟩
    | cons b before' =>
      cases hcs
      exact ⟨rfl, mt hasDouble_cons_cons.mp (not_or.mpr ⟨hcd, hn⟩), by simpa using hl⟩

theorem cutDouble?_eq_none_iff {mark : Char} {cs : List Char} :
    cutDouble? mark cs = none ↔ ¬ HasDouble mark cs := by
  fun_induction cutDouble? mark cs with
  | case1 => simp [not_hasDouble_nil]
  | case2 c => simp [not_hasDouble_singleton]
  | case3 c d cs hcd => simp [hasDouble_cons_cons, hcd]
  | case4 c d cs hcd ih => simp [hasDouble_cons_cons, hcd, ih]

end Text

namespace Leaf

open Text

/-- Neither `{{` nor `}}` occurs in `cs`. -/
def DelimiterFree (cs : List Char) : Prop := ¬ HasDouble '{' cs ∧ ¬ HasDouble '}' cs

instance (cs : List Char) : Decidable (DelimiterFree cs) :=
  inferInstanceAs (Decidable (¬ HasDouble '{' cs ∧ ¬ HasDouble '}' cs))

/-- No delimiter has its first brace at the end of `cs` and its second at the start of `ds`. -/
def Seamless (cs ds : List Char) : Prop :=
  ∀ c, cs.getLast? = some c → ds.head? = some c → c ≠ '{' ∧ c ≠ '}'

theorem delimiterFree_nil : DelimiterFree [] := ⟨not_hasDouble_nil _, not_hasDouble_nil _⟩

theorem delimiterFree_append {cs ds : List Char} :
    DelimiterFree (cs ++ ds) ↔ DelimiterFree cs ∧ DelimiterFree ds ∧ Seamless cs ds := by
  unfold DelimiterFree Seamless
  rw [hasDouble_append, hasDouble_append]
  constructor
  · intro hboth
    obtain ⟨ho, hc⟩ := hboth
    simp only [not_or, not_and] at ho hc
    refine ⟨⟨ho.1, hc.1⟩, ⟨ho.2.1, hc.2.1⟩, ?_⟩
    intro c hl hh
    constructor
    · rintro rfl
      exact ho.2.2 hl hh
    · rintro rfl
      exact hc.2.2 hl hh
  · intro hparts
    obtain ⟨⟨ho, hc⟩, ⟨ho', hc'⟩, hs⟩ := hparts
    refine ⟨not_or.mpr ⟨ho, not_or.mpr ⟨ho', ?_⟩⟩, not_or.mpr ⟨hc, not_or.mpr ⟨hc', ?_⟩⟩⟩
    · exact fun h => (hs _ h.1 h.2).1 rfl
    · exact fun h => (hs _ h.1 h.2).2 rfl

theorem delimiterFree_cons {c : Char} {cs : List Char} :
    DelimiterFree (c :: cs) ↔ DelimiterFree cs ∧ Seamless [c] cs := by
  have hc : DelimiterFree [c] := ⟨not_hasDouble_singleton _ _, not_hasDouble_singleton _ _⟩
  rw [← List.singleton_append, delimiterFree_append]
  exact and_iff_right hc

theorem seamless_nil_left (ds : List Char) : Seamless [] ds := by
  intro c h
  cases h

theorem seamless_nil_right (cs : List Char) : Seamless cs [] := by
  intro c _ h
  cases h

theorem Seamless.of_append_right {cs ds more : List Char} (h : Seamless cs (ds ++ more)) :
    Seamless cs ds := by
  intro c hc hd
  refine h c hc ?_
  rw [List.head?_append, hd, Option.some_or]

/-- The seams of three texts do not depend on which two are joined first. -/
theorem seamless_cons_append {c : Char} {cs ds : List Char} :
    Seamless [c] (cs ++ ds) ∧ Seamless cs ds ↔ Seamless [c] cs ∧ Seamless (c :: cs) ds := by
  cases cs with
  | nil =>
    constructor
    · exact fun h => ⟨seamless_nil_right _, h.1⟩
    · exact fun h => ⟨h.2, seamless_nil_left _⟩
  | cons d cs =>
    have hs : Seamless (c :: d :: cs) ds ↔ Seamless (d :: cs) ds := by
      unfold Seamless
      rw [List.getLast?_cons_cons]
    rw [hs]
    exact Iff.rfl

theorem spanLiteral_cons {c : Char} {cs : List Char} (h : Seamless [c] cs) :
    spanLiteral (c :: cs) = (c :: (spanLiteral cs).1, (spanLiteral cs).2) := by
  rw [spanLiteral]
  · rintro inner rfl rfl
    exact (h '{' rfl rfl).1 rfl
  · rintro inner rfl rfl
    exact (h '}' rfl rfl).2 rfl

/-- Text without delimiters in front of a text only lengthens its first run of literal text. -/
theorem spanLiteral_append {cs ds : List Char} (hcs : DelimiterFree cs) (hs : Seamless cs ds) :
    spanLiteral (cs ++ ds) = (cs ++ (spanLiteral ds).1, (spanLiteral ds).2) := by
  induction cs with
  | nil => rfl
  | cons c cs ih =>
    obtain ⟨hcs', hc⟩ := delimiterFree_cons.mp hcs
    obtain ⟨hc', hs'⟩ := seamless_cons_append.mpr ⟨hc, hs⟩
    rw [List.cons_append, spanLiteral_cons hc', ih hcs' hs', List.cons_append]

/-- What is left of a text after its first run of literal text. -/
def LiteralEnd.Begins : LiteralEnd → List Char → Prop
  | .finish, tail => tail = []
  | .opening inner, tail => tail = '{' :: '{' :: inner
  | .closing, tail => ∃ rest, tail = '}' :: '}' :: rest

theorem LiteralEnd.Begins.spanLiteral {e : LiteralEnd} {tail : List Char} (h : e.Begins tail) :
    Leaf.spanLiteral tail = ([], e) := by
  cases e with
  | finish => rw [h, Leaf.spanLiteral]
  | opening inner => rw [h, Leaf.spanLiteral]
  | closing =>
    obtain ⟨rest, rfl⟩ := h
    rw [Leaf.spanLiteral]

/-- The first run of literal text is the longest start of the text that neither holds a delimiter
    nor ends inside the delimiter that follows. -/
theorem spanLiteral_eq_iff {cs literal : List Char} {e : LiteralEnd} :
    spanLiteral cs = (literal, e) ↔
      ∃ tail, cs = literal ++ tail ∧ DelimiterFree literal ∧ Seamless literal tail ∧
        e.Begins tail := by
  constructor
  · intro h
    fun_induction spanLiteral cs generalizing literal with
    | case1 =>
      cases h
      exact ⟨[], rfl, delimiterFree_nil, seamless_nil_right _, rfl⟩
    | case2 inner =>
      cases h
      exact ⟨_, rfl, delimiterFree_nil, seamless_nil_left _, rfl⟩
    | case3 rest =>
      cases h
      exact ⟨_, rfl, delimiterFree_nil, seamless_nil_left _, rest, rfl⟩
    | case4 c cs ho hc ih =>
      cases h
      obtain ⟨tail, hcs, hfree, hs, hb⟩ := ih rfl
      have hseam : Seamless [c] cs := by
        rintro d hd hh
        obtain rfl : c = d := by simpa using hd
        cases cs with
        | nil => cases hh
        | cons d cs =>
          obtain rfl : d = c := by simpa using hh
          exact ⟨fun hd => ho cs hd (by rw [hd]), fun hd => hc cs hd (by rw [hd])⟩
      rw [hcs] at hseam
      obtain ⟨hl, ht⟩ := seamless_cons_append.mp ⟨hseam, hs⟩
      exact ⟨tail, congrArg (c :: ·) hcs, delimiterFree_cons.mpr ⟨hfree, hl⟩, ht, hb⟩
  · intro hexists
    obtain ⟨tail, rfl, hfree, hs, hb⟩ := hexists
    rw [spanLiteral_append hfree hs, hb.spanLiteral, List.append_nil]

end Leaf

end Stencil
