import Stencil.Proofs.Extension
import Stencil.Proofs.StrictRendering

/-!
# Leaves after one another

The text of one leaf with that of another behind it is a leaf again, unless the braces at the seam
make a delimiter that neither of them has. Its placeholders are those of both, the literal texts
that meet become one, and it is rendered as the one and then the other.
-/

namespace Stencil

namespace Segment

/-- Segments after one another. Two literal texts that meet become one. -/
def glue : List Segment → List Segment → List Segment
  | [], ys => ys
  | [.literal a], .literal b :: ys => .literal (a ++ b) :: ys
  | x :: xs, ys => x :: glue xs ys

theorem glue_placeholder_cons (path : VarPath) (xs ys : List Segment) :
    glue (.placeholder path :: xs) ys = .placeholder path :: glue xs ys := by
  rw [glue]
  simp

/-- Segments in front of a placeholder do not meet those behind it. -/
theorem glue_append_placeholder (xs : List Segment) (path : VarPath) (ys zs : List Segment) :
    glue (xs ++ .placeholder path :: ys) zs = xs ++ .placeholder path :: glue ys zs := by
  induction xs with
  | nil => exact glue_placeholder_cons path ys zs
  | cons x xs ih =>
    rw [List.cons_append, glue, ih, List.cons_append]
    simp

theorem render_glue (bindings : Bindings) (xs ys : List Segment) :
    String.join ((glue xs ys).map (render bindings)) =
      String.join (xs.map (render bindings)) ++ String.join (ys.map (render bindings)) := by
  fun_induction glue xs ys with
  | case1 ys => exact String.empty_append.symm
  | case2 a b ys => simp [render, String.append_assoc]
  | case3 x xs ys _ ih =>
    rw [List.map_cons, String.join_cons, ih, List.map_cons, String.join_cons, String.append_assoc]

theorem filterMap_path?_glue (xs ys : List Segment) :
    (glue xs ys).filterMap path? = xs.filterMap path? ++ ys.filterMap path? := by
  fun_induction glue xs ys with
  | case1 ys => rfl
  | case2 a b ys => rfl
  | case3 x xs ys _ ih => rw [List.filterMap_cons, List.filterMap_cons, ih]; cases x.path? <;> rfl

end Segment

namespace Leaf

open Text

/-- Literal text meets the literal text in front of what is not literal text. -/
theorem glue_literalSegments (a b : List Char) {more : List Segment}
    (h : ∀ text ys, more ≠ .literal text :: ys) :
    Segment.glue (literalSegments a) (literalSegments b ++ more) =
      literalSegments (a ++ b) ++ more := by
  cases a with
  | nil => rfl
  | cons c a =>
    cases b with
    | cons d b =>
      have htext : String.ofList (c :: a) ++ String.ofList (d :: b) =
          String.ofList (c :: a ++ d :: b) := String.ofList_append.symm
      exact congrArg (fun text => Segment.literal text :: more) htext
    | nil =>
      rw [List.append_nil]
      cases more with
      | nil => rfl
      | cons segment more =>
        cases segment with
        | literal text => exact absurd rfl (h text more)
        | placeholder path => rfl

/-! ## Leaves glued together -/

namespace Division

/-- A division with more literal text in front. -/
def prepend (literal : List Char) : Division → Division
  | ⟨[], last⟩ => ⟨[], literal ++ last⟩
  | ⟨(first, p) :: runs, last⟩ => ⟨(literal ++ first, p) :: runs, last⟩

theorem text_prepend (literal : List Char) (d : Division) :
    (d.prepend literal).text = literal ++ d.text := by
  obtain ⟨runs, last⟩ := d
  cases runs with
  | nil => rfl
  | cons run runs =>
    obtain ⟨first, p⟩ := run
    rw [prepend, text_cons, text_cons, List.append_assoc]

theorem segments_prepend (literal : List Char) (d : Division) :
    (d.prepend literal).segments = Segment.glue (literalSegments literal) d.segments := by
  obtain ⟨runs, last⟩ := d
  cases runs with
  | nil =>
    have hglue : Segment.glue (literalSegments literal) (literalSegments last ++ []) =
        literalSegments (literal ++ last) ++ [] := glue_literalSegments literal last (by simp)
    rw [List.append_nil, List.append_nil] at hglue
    rw [prepend, segments_nil, segments_nil, hglue]
  | cons run runs =>
    obtain ⟨first, p⟩ := run
    rw [prepend, segments_cons, segments_cons, glue_literalSegments _ _ (by simp)]

theorem Valid.prepend {literal : List Char} {d : Division} (hd : d.Valid)
    (hl : DelimiterFree literal) (hs : Seamless literal d.text) : (d.prepend literal).Valid := by
  obtain ⟨runs, last⟩ := d
  cases runs with
  | nil => exact ⟨by simp [Division.prepend], by simp [Division.prepend],
      by simp [Division.prepend], delimiterFree_append.mpr ⟨hl, hd.last_free, hs⟩⟩
  | cons run runs =>
    obtain ⟨first, p⟩ := run
    obtain ⟨hrun, hp, hrest⟩ := valid_cons.mp hd
    rw [text_cons] at hs
    refine valid_cons.mpr ⟨⟨?_, ?_⟩, hp, hrest⟩
    · exact delimiterFree_append.mpr ⟨hl, hrun.free, hs.of_append_right⟩
    · intro hlast
      rw [List.getLast?_append] at hlast
      cases first with
      | nil => exact (hs '{' hlast rfl).1 rfl
      | cons c first =>
        have hlast' : (c :: first).getLast? ≠ some '{' := hrun.getLast?_ne
        rw [List.getLast?_cons, Option.some_or] at hlast
        rw [List.getLast?_cons] at hlast'
        exact hlast' hlast

/-- Two divisions after one another. The literal texts that meet become one. -/
def append (d e : Division) : Division :=
  ⟨d.runs ++ (e.prepend d.last).runs, (e.prepend d.last).last⟩

theorem text_append (d e : Division) : (d.append e).text = d.text ++ e.text := by
  have hseam := text_prepend d.last e
  simp only [text] at hseam
  simp only [append, text, List.flatMap_append, List.append_assoc, hseam]

theorem Valid.append {d e : Division} (hd : d.Valid) (he : e.Valid) (hs : Seamless d.last e.text) :
    (d.append e).Valid := by
  have hseam := he.prepend hd.last_free hs
  exact ⟨List.forall_mem_append.mpr ⟨hd.run_free, hseam.run_free⟩,
    List.forall_mem_append.mpr ⟨hd.run_getLast?_ne, hseam.run_getLast?_ne⟩,
    List.forall_mem_append.mpr ⟨hd.placeholder_valid, hseam.placeholder_valid⟩, hseam.last_free⟩

theorem segments_append_runs (runs runs' : List (List Char × Placeholder)) (last : List Char) :
    segments ⟨runs ++ runs', last⟩ = segments ⟨runs, []⟩ ++ segments ⟨runs', last⟩ := by
  induction runs with
  | nil => rfl
  | cons run runs ih =>
    obtain ⟨literal, p⟩ := run
    rw [List.cons_append, segments_cons, segments_cons, ih, List.append_assoc, List.cons_append]

theorem segments_eq_front (d : Division) :
    d.segments = d.frontSegments ++ literalSegments d.last := by
  rw [frontSegments, ← segments_nil, ← segments_append_runs, List.append_nil]

/-- Everything in front of the last literal text ends with a placeholder, if there is anything. -/
theorem front_ends (d : Division) :
    (d.front = [] ∧ d.frontSegments = []) ∨
      d.front.getLast? = some '}' ∧ ∃ xs path, d.frontSegments = xs ++ [.placeholder path] := by
  induction d using Division.induction with
  | nil last => exact Or.inl ⟨rfl, rfl⟩
  | cons literal p runs last ih =>
    refine Or.inr ?_
    rw [front_cons, frontSegments_cons]
    rcases ih with ⟨hfront, hsegments⟩ | ⟨hfront, xs, path, hsegments⟩
    · rw [hfront, hsegments]
      refine ⟨?_, literalSegments literal, p.body.path, rfl⟩
      simp [Placeholder.text, List.getLast?_append, List.getLast?_cons]
    · rw [hsegments]
      refine ⟨?_, literalSegments literal ++ .placeholder p.body.path :: xs, path, by simp⟩
      simp [List.getLast?_append, hfront]

theorem segments_append (d e : Division) :
    (d.append e).segments = Segment.glue d.segments e.segments := by
  rw [append, segments_append_runs]
  show d.frontSegments ++ (e.prepend d.last).segments = _
  rw [segments_prepend, segments_eq_front d]
  rcases d.front_ends with ⟨-, hsegments⟩ | ⟨-, xs, path, hsegments⟩
  · rw [hsegments]
    rfl
  · rw [hsegments, List.append_assoc, List.append_assoc]
    exact (Segment.glue_append_placeholder xs path _ _).symm

/-! ## The seam -/

/-- A leaf that ends with an opening brace ends with literal text. -/
theorem getLast?_text_eq_open_iff (d : Division) :
    d.text.getLast? = some '{' ↔ d.last.getLast? = some '{' := by
  rw [← d.front_append_last, List.getLast?_append]
  cases d.last.getLast? with
  | some c => simp
  | none =>
    rcases d.front_ends with ⟨hfront, -⟩ | ⟨hfront, -⟩ <;> simp [hfront]

/-- The last segment is a literal text exactly if there is text after the last placeholder. -/
theorem getLast?_segments_eq_literal_iff (d : Division) (c : Char) :
    (∃ text, d.segments.getLast? = some (.literal text) ∧ text.toList.getLast? = some c) ↔
      d.last.getLast? = some c := by
  rw [segments_eq_front, List.getLast?_append, literalSegments]
  cases hlast : d.last with
  | cons c' last => simp
  | nil =>
    rcases d.front_ends with ⟨-, hsegments⟩ | ⟨-, xs, path, hsegments⟩ <;> simp [hsegments]

/-- The conditions on the seam, in terms of the two texts and of what was read of the first. -/
theorem seamless_iff (d : Division) (tail : List Char) :
    Seamless d.last tail ↔
      ¬(d.text.getLast? = some '{' ∧ tail.head? = some '{') ∧
        ¬((∃ text, d.segments.getLast? = some (.literal text) ∧ text.toList.getLast? = some '}') ∧
          tail.head? = some '}') := by
  rw [getLast?_text_eq_open_iff, getLast?_segments_eq_literal_iff]
  constructor
  · intro h
    exact ⟨fun hopen => (h '{' hopen.1 hopen.2).1 rfl,
      fun hclose => (h '}' hclose.1 hclose.2).2 rfl⟩
  · intro hboth c hc hd
    obtain ⟨hopen, hclose⟩ := hboth
    constructor
    · rintro rfl
      exact hopen ⟨hc, hd⟩
    · rintro rfl
      exact hclose ⟨hc, hd⟩

end Division

/-- A leaf does not start with a brace and the content of a placeholder behind it. -/
theorem run_open_content {content : List Char} (hc : Enclosed content) (ho : '{' ∉ content) :
    Run '}' ('{' :: content) := by
  have hhead : content.head? ≠ some '{' := fun h => ho (List.mem_of_head? h)
  refine ⟨delimiterFree_cons.mpr ⟨⟨not_hasDouble_of_not_mem ho, hc.free⟩, ?_⟩, ?_⟩
  · intro c hl hd
    obtain rfl : '{' = c := by simpa using hl
    exact absurd hd hhead
  · cases content with
    | nil => simp
    | cons c content =>
      rw [List.getLast?_cons_cons]
      exact hc.getLast?_ne

/-- An opening delimiter across the seam leaves no leaf. -/
theorem scan_opening_seam_ne_ok {literal rest : List Char} (hrun : Run '{' literal)
    (ht : ∃ d : Division, d.Valid ∧ d.text = '{' :: rest) (offset : Nat) (segments : List Segment) :
    scan offset (literal ++ '{' :: '{' :: rest) ≠ .ok segments := by
  intro hok
  cases hcut : cutDouble? '}' rest with
  | none =>
    rw [scan_unterminated offset hrun (cutDouble?_eq_none_iff.mp hcut)] at hok
    cases hok
  | some cut =>
    obtain ⟨content, after⟩ := cut
    obtain ⟨rfl, hfree, hlast⟩ := cutDouble?_eq_some_iff.mp hcut
    have hcontent : Enclosed content := ⟨hfree, hlast⟩
    rw [scan_opening offset hrun hcontent] at hok
    cases hread : readPlaceholder (offset + byteSize literal) content with
    | error e =>
      rw [hread] at hok
      cases hok
    | ok path =>
      -- The content has no brace, so the second text has a `}}` that closes nothing.
      obtain ⟨p, hp, rfl, -⟩ := readPlaceholder_eq_ok_iff.mp hread
      obtain ⟨d, hd, htext⟩ := ht
      have hclosing := hd.scan 0
      have hstray : Run '}' ('{' :: p.content) :=
        run_open_content hcontent (hp.brace_not_mem (Or.inl rfl))
      rw [htext, ← List.cons_append, scan_closing 0 hstray] at hclosing
      cases hclosing

/-- A leaf in front of another makes no leaf with it if a delimiter runs across the seam. -/
theorem scan_seam_ne_ok {last tail : List Char} (hl : DelimiterFree last)
    (ht : ∃ d : Division, d.Valid ∧ d.text = tail) (hs : ¬Seamless last tail) (offset : Nat)
    (segments : List Segment) : scan offset (last ++ tail) ≠ .ok segments := by
  simp only [Seamless, not_forall] at hs
  obtain ⟨c, hc, hd, hbrace⟩ := hs
  obtain ⟨literal, rfl⟩ := List.getLast?_eq_some_iff.mp hc
  obtain ⟨rest, rfl⟩ := List.head?_eq_some_iff.mp hd
  obtain ⟨hfree, -, hseam⟩ := delimiterFree_append.mp hl
  rw [List.append_assoc, List.singleton_append]
  by_cases hopen : c = '{'
  · subst hopen
    exact scan_opening_seam_ne_ok (.of_seamless (Or.inl rfl) hfree hseam) ht offset segments
  · obtain rfl : c = '}' := by
      by_contra hclose
      exact hbrace ⟨hopen, hclose⟩
    rw [scan_closing offset (.of_seamless (Or.inr rfl) hfree hseam)]
    exact fun h => by cases h

/-! ## Rendering -/

theorem varPaths_glue (xs ys : List Segment) :
    (ofSegments (Segment.glue xs ys)).varPaths =
      (ofSegments xs).varPaths ++ (ofSegments ys).varPaths :=
  Segment.filterMap_path?_glue xs ys

theorem render_glue (xs ys : List Segment) (bindings : Bindings) :
    (ofSegments (Segment.glue xs ys)).render bindings =
      (ofSegments xs).render bindings ++ (ofSegments ys).render bindings :=
  Segment.render_glue bindings xs ys

/-- The first unbound variable of the first part is reported, or else that of the second. -/
theorem renderStrict_glue (xs ys : List Segment) (bindings : Bindings) :
    (ofSegments (Segment.glue xs ys)).renderStrict bindings = (do
      let front ← (ofSegments xs).renderStrict bindings
      let back ← (ofSegments ys).renderStrict bindings
      return front ++ back) := by
  simp only [renderStrict_eq_report]
  rw [report_bind, render_glue, firstUnresolved?, varPaths_glue, List.find?_append]
  rfl

/-- Two leaves after one another are a leaf, unless a delimiter runs across the seam. Its segments
    are those of both, its variables too, and it is rendered as the one and then the other. -/
theorem parse_append_iff_seamless (s t : String) (a b : Leaf) (hs : parse s = .ok a)
    (ht : parse t = .ok b) :
    ((∃ c, parse (s ++ t) = .ok c) ↔
      ¬(s.toList.getLast? = some '{' ∧ t.toList.head? = some '{') ∧
        ¬((∃ text, a.segments.getLast? = some (.literal text) ∧ text.toList.getLast? = some '}') ∧
          t.toList.head? = some '}')) ∧
    ∀ c, parse (s ++ t) = .ok c →
      c.segments = Segment.glue a.segments b.segments ∧ c.varPaths = a.varPaths ++ b.varPaths ∧
        ∀ bindings, c.render bindings = a.render bindings ++ b.render bindings ∧
          c.renderStrict bindings = (do
            let front ← a.renderStrict bindings
            let back ← b.renderStrict bindings
            return front ++ back) := by
  obtain ⟨d, hd, hdt, rfl⟩ := parse_eq_ok_iff.mp hs
  obtain ⟨e, he, het, rfl⟩ := parse_eq_ok_iff.mp ht
  have htext : (d.append e).text = (s ++ t).toList := by
    rw [d.text_append, hdt, het, String.toList_append]
  have hseam : (∃ c, parse (s ++ t) = .ok c) → Seamless d.last e.text := by
    rintro ⟨c, hc⟩
    by_contra hmeet
    obtain ⟨de, hde, hdet, -⟩ := parse_eq_ok_iff.mp hc
    have hok := hde.scan 0
    rw [hdet, ← htext, d.text_append, hd.scan_append] at hok
    cases hscan : scan (0 + byteSize d.front) (d.last ++ e.text) with
    | error e' =>
      rw [hscan] at hok
      cases hok
    | ok segments => exact scan_seam_ne_ok hd.last_free ⟨e, he, rfl⟩ hmeet _ segments hscan
  have hparse (h : Seamless d.last e.text) :
      parse (s ++ t) = .ok (ofSegments (Segment.glue d.segments e.segments)) :=
    parse_eq_ok_iff.mpr ⟨_, hd.append he h, htext, congrArg ofSegments (d.segments_append e)⟩
  rw [← hdt, ← het]
  refine ⟨⟨fun h => (d.seamless_iff e.text).mp (hseam h), fun h => ?_⟩, fun c hc => ?_⟩
  · exact ⟨_, hparse ((d.seamless_iff e.text).mpr h)⟩
  · obtain rfl := Except.ok.inj ((hparse (hseam ⟨c, hc⟩)).symm.trans hc)
    exact ⟨rfl, varPaths_glue _ _, fun bindings =>
      ⟨render_glue _ _ bindings, renderStrict_glue _ _ bindings⟩⟩

/-- An opening and a closing brace can meet, two closing braces cannot. -/
theorem parse_append_braces :
    (∃ c, parse ("\x7b\x7bx\x7d\x7d \x7d\x7b" ++ "\x7d\x7b\x7by\x7d\x7d") = .ok c ∧
      c.segments = [.placeholder ⟨"x", []⟩, .literal " \x7d\x7b\x7d", .placeholder ⟨"y", []⟩] ∧
      c.renderStrict [("x", .null)] = .error ⟨"y", []⟩) ∧
    ¬∃ c, parse ("a\x7d" ++ "\x7d\x7b\x7by\x7d\x7d") = .ok c := by
  have hfront : parse "\x7b\x7bx\x7d\x7d \x7d\x7b" =
      .ok (ofSegments [.placeholder ⟨"x", []⟩, .literal " \x7d\x7b"]) := by decide +kernel
  have hstray : parse "a\x7d" = .ok (ofSegments [.literal "a\x7d"]) := by decide +kernel
  have hback : parse "\x7d\x7b\x7by\x7d\x7d" =
      .ok (ofSegments [.literal "\x7d", .placeholder ⟨"y", []⟩]) := by decide +kernel
  obtain ⟨hiff, hparts⟩ := parse_append_iff_seamless _ _ _ _ hfront hback
  constructor
  · have hseam : ∃ c, parse ("\x7b\x7bx\x7d\x7d \x7d\x7b" ++ "\x7d\x7b\x7by\x7d\x7d") = .ok c := by
      refine hiff.mpr ⟨by decide, ?_⟩
      rintro ⟨⟨text, htext, hlast⟩, -⟩
      obtain rfl : " \x7d\x7b" = text := by simpa [ofSegments] using htext
      revert hlast
      decide
    obtain ⟨c, hc⟩ := hseam
    obtain ⟨hsegments, -, hrender⟩ := hparts c hc
    refine ⟨c, hc, hsegments, ?_⟩
    rw [(hrender _).2]
    rfl
  · rw [(parse_append_iff_seamless _ _ _ _ hstray hback).1]
    exact fun hseam => hseam.2 ⟨⟨"a\x7d", rfl, rfl⟩, rfl⟩

end Leaf

end Stencil
