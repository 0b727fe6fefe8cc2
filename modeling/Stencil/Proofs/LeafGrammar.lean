import Stencil.Proofs.Scanning

/-!
# The grammar of leaves

A leaf is literal text with placeholders in it. A `Division` is a way to cut a text into the two; a
text is a leaf exactly if there is one, there is never more than one, and the segments that are read
are its pieces.
-/

namespace Stencil.Leaf

open Text

/-- A text cut into runs of literal text, each but the last with the placeholder after it. -/
structure Division where
  runs : List (List Char × Placeholder)
  /-- The literal text after the last placeholder. -/
  last : List Char

namespace Division

/-- No run of literal text holds a delimiter or, in front of a placeholder, ends with `{`. -/
structure Valid (d : Division) : Prop where
  run_free : ∀ run ∈ d.runs, DelimiterFree run.1
  run_getLast?_ne : ∀ run ∈ d.runs, run.1.getLast? ≠ some '{'
  placeholder_valid : ∀ run ∈ d.runs, run.2.Valid
  last_free : DelimiterFree d.last

instance (d : Division) : Decidable d.Valid :=
  decidable_of_iff
    ((∀ run ∈ d.runs, DelimiterFree run.1 ∧ run.1.getLast? ≠ some '{' ∧ run.2.Valid) ∧
      DelimiterFree d.last)
    ⟨fun h => ⟨fun run hr => (h.1 run hr).1, fun run hr => (h.1 run hr).2.1,
      fun run hr => (h.1 run hr).2.2, h.2⟩,
    fun h => ⟨fun run hr => ⟨h.1 run hr, h.2 run hr, h.3 run hr⟩, h.4⟩⟩

/-- The text that is cut. -/
def text (d : Division) : List Char := d.runs.flatMap (fun run => run.1 ++ run.2.text) ++ d.last

/-- What holds without placeholders, and with one in front if it holds of what is behind it, holds
    of all divisions. -/
@[elab_as_elim]
theorem induction {motive : Division → Prop} (nil : ∀ last, motive ⟨[], last⟩)
    (cons : ∀ literal p runs last, motive ⟨runs, last⟩ → motive ⟨(literal, p) :: runs, last⟩) :
    ∀ d, motive d
  | ⟨[], last⟩ => nil last
  | ⟨(literal, p) :: runs, last⟩ => cons literal p runs last (induction nil cons ⟨runs, last⟩)

/-- All literal texts and paths in their order, the empty literal texts among them. -/
def pieces (d : Division) : List Segment :=
  d.runs.flatMap (fun run => [.literal (String.ofList run.1), .placeholder run.2.body.path]) ++
    [.literal (String.ofList d.last)]

/-- The pieces that are not empty. -/
def segments (d : Division) : List Segment := d.pieces.filter (· ≠ .literal "")

theorem valid_cons {literal : List Char} {p : Placeholder} {runs : List (List Char × Placeholder)}
    {last : List Char} :
    Valid ⟨(literal, p) :: runs, last⟩ ↔ Run '{' literal ∧ p.Valid ∧ Valid ⟨runs, last⟩ := by
  constructor
  · intro hparts
    obtain ⟨hf, hl, hp, hlast⟩ := hparts
    simp only [List.forall_mem_cons] at hf hl hp
    exact ⟨⟨hf.1, hl.1⟩, hp.1, hf.2, hl.2, hp.2, hlast⟩
  · intro hparts
    obtain ⟨hrun, hp, hd⟩ := hparts
    exact ⟨List.forall_mem_cons.mpr ⟨hrun.free, hd.run_free⟩,
      List.forall_mem_cons.mpr ⟨hrun.getLast?_ne, hd.run_getLast?_ne⟩,
      List.forall_mem_cons.mpr ⟨hp, hd.placeholder_valid⟩, hd.last_free⟩

theorem text_cons (literal : List Char) (p : Placeholder) (runs : List (List Char × Placeholder))
    (last : List Char) :
    text ⟨(literal, p) :: runs, last⟩ =
      literal ++ '{' :: '{' :: (p.content ++ '}' :: '}' :: text ⟨runs, last⟩) := by
  simp only [text, Placeholder.text, List.flatMap_cons, List.append_assoc, List.cons_append,
    List.nil_append]

theorem filter_literal (literal : List Char) :
    [Segment.literal (String.ofList literal)].filter (· ≠ .literal "") =
      literalSegments literal := by
  cases literal with
  | nil => rfl
  | cons c cs => simp [literalSegments]

theorem segments_nil (last : List Char) : segments ⟨[], last⟩ = literalSegments last :=
  filter_literal last

theorem segments_cons (literal : List Char) (p : Placeholder)
    (runs : List (List Char × Placeholder)) (last : List Char) :
    segments ⟨(literal, p) :: runs, last⟩ =
      literalSegments literal ++ .placeholder p.body.path :: segments ⟨runs, last⟩ := by
  have hpieces : pieces ⟨(literal, p) :: runs, last⟩ =
      [Segment.literal (String.ofList literal)] ++
        .placeholder p.body.path :: pieces ⟨runs, last⟩ := by
    simp only [pieces, List.flatMap_cons, List.cons_append, List.nil_append]
  rw [segments, hpieces, List.filter_append, filter_literal, List.filter_cons_of_pos (by simp),
    segments]

section Joined

variable {f : Segment → String} (hf : ∀ text, f (.literal text) = text)
include hf

/-- Literal text stands for itself among joined texts, also where it is empty and no segment. -/
theorem join_literalSegments (literal : List Char) (segments : List Segment) :
    String.join ((literalSegments literal ++ segments).map f) =
      String.ofList literal ++ String.join (segments.map f) := by
  cases literal with
  | nil => exact String.empty_append.symm
  | cons c literal =>
    rw [← hf (String.ofList (c :: literal))]
    exact String.join_cons

theorem join_segments_nil (last : List Char) :
    String.join ((segments ⟨[], last⟩).map f) = String.ofList last := by
  rw [segments_nil, ← List.append_nil (literalSegments last), join_literalSegments hf]
  exact String.append_empty

theorem join_segments_cons (literal : List Char) (p : Placeholder)
    (runs : List (List Char × Placeholder)) (last : List Char) :
    String.join ((segments ⟨(literal, p) :: runs, last⟩).map f) =
      String.ofList literal ++
        (f (.placeholder p.body.path) ++ String.join ((segments ⟨runs, last⟩).map f)) := by
  rw [segments_cons, join_literalSegments hf, List.map_cons, String.join_cons]

end Joined

/-- The pieces of a division are what is read. -/
theorem Valid.scan {d : Division} (h : d.Valid) (offset : Nat) :
    scan offset d.text = .ok d.segments := by
  induction d using induction generalizing offset with
  | nil last =>
    rw [segments_nil]
    exact scan_finish offset h.last_free
  | cons literal p runs last ih =>
    obtain ⟨hrun, hp, hd⟩ := valid_cons.mp h
    rw [text_cons, scan_opening offset hrun hp.enclosed, hp.read, segments_cons, Except.bind,
      ih hd _]
    rfl

/-- Whatever is read comes from a division. -/
theorem exists_of_scan {cs : List Char} {offset : Nat} {segments : List Segment}
    (h : Leaf.scan offset cs = .ok segments) : ∃ d : Division, d.Valid ∧ d.text = cs := by
  induction cs using scan_induction generalizing offset segments with
  | finish cs hfree => exact ⟨⟨[], cs⟩, ⟨by simp, by simp, by simp, hfree⟩, rfl⟩
  | closing literal rest hrun =>
    rw [scan_closing offset hrun] at h
    cases h
  | unterminated literal inner hrun hinner =>
    rw [scan_unterminated offset hrun hinner] at h
    cases h
  | opening literal content rest hrun hcontent ih =>
    rw [scan_opening offset hrun hcontent] at h
    cases hread : readPlaceholder (offset + byteSize literal) content with
    | error e =>
      rw [hread] at h
      cases h
    | ok path =>
      cases hrest : Leaf.scan (offset + byteSize literal + 2 + byteSize content + 2) rest with
      | error e =>
        rw [hread, Except.bind, hrest] at h
        cases h
      | ok more =>
        obtain ⟨p, hp, rfl, -⟩ := readPlaceholder_eq_ok_iff.mp hread
        obtain ⟨⟨runs, last⟩, hd, rfl⟩ := ih hrest
        exact ⟨⟨(literal, p) :: runs, last⟩, valid_cons.mpr ⟨hrun, hp, hd⟩, text_cons _ _ _ _⟩

/-- A text has at most one division. -/
theorem Valid.unique {d e : Division} (hd : d.Valid) (he : e.Valid) (h : d.text = e.text) :
    d = e := by
  have finish_ne_opening {last literal : List Char} {p : Placeholder}
      {runs : List (List Char × Placeholder)} {last' : List Char} (hf : DelimiterFree last)
      (hrun : Run '{' literal) : last ≠ text ⟨(literal, p) :: runs, last'⟩ := by
    intro hlast
    have hspan := hrun.spanLiteral (p.content ++ '}' :: '}' :: text ⟨runs, last'⟩)
    rw [← text_cons, ← hlast, hf.spanLiteral] at hspan
    cases hspan
  induction d using induction generalizing e with
  | nil last =>
    obtain ⟨runs', last'⟩ := e
    cases runs' with
    | nil => exact congrArg (Division.mk []) h
    | cons run' runs' => exact absurd h (finish_ne_opening hd.last_free (valid_cons.mp he).1)
  | cons literal p runs last ih =>
    obtain ⟨runs', last'⟩ := e
    obtain ⟨hrun, hp, hd'⟩ := valid_cons.mp hd
    cases runs' with
    | nil => exact absurd h.symm (finish_ne_opening he.last_free hrun)
    | cons run' runs' =>
      obtain ⟨literal', p'⟩ := run'
      obtain ⟨hrun', hp', he'⟩ := valid_cons.mp he
      -- The first delimiter of the text fixes the first run, and the first `}}` after it the
      -- content.
      have hspan := hrun.spanLiteral (p.content ++ '}' :: '}' :: text ⟨runs, last⟩)
      rw [← text_cons, h, text_cons, hrun'.spanLiteral] at hspan
      simp only [Prod.mk.injEq, LiteralEnd.opening.injEq] at hspan
      obtain ⟨rfl, hinner⟩ := hspan
      have hcut := hp.enclosed.cutDouble? (text ⟨runs, last⟩)
      rw [← hinner, hp'.enclosed.cutDouble?] at hcut
      simp only [Option.some.injEq, Prod.mk.injEq] at hcut
      obtain rfl : p' = p := hp'.ext hp hcut.1
      have hrest := ih hd' he' hcut.2.symm
      cases hrest
      rfl

/-! ## What is read from a division -/

theorem literal_empty_not_mem (d : Division) : .literal "" ∉ d.segments := by
  intro h
  have hne := (List.mem_filter.mp h).2
  simp at hne

/-- Two literal texts stand side by side. -/
def LiteralsMeet (segments : List Segment) : Prop :=
  ∃ a b, [Segment.literal a, .literal b] <:+: segments

theorem not_literalsMeet (d : Division) : ¬ LiteralsMeet d.segments := by
  induction d using induction with
  | nil last =>
    intro hmeet
    obtain ⟨a, b, h⟩ := hmeet
    rw [segments_nil] at h
    have hl := h.length_le
    unfold literalSegments at hl
    split at hl <;> simp at hl
  | cons literal p runs last ih =>
    intro hmeet
    obtain ⟨a, b, h⟩ := hmeet
    rw [segments_cons] at h
    -- A placeholder is in the way of every literal text before the last.
    have hafter : ¬ [Segment.literal a, .literal b] <:+:
        .placeholder p.body.path :: segments ⟨runs, last⟩ := by
      intro h
      rcases List.infix_cons_iff.mp h with hp | hi
      · have hhead := (List.cons_prefix_cons.mp hp).1
        cases hhead
      · exact ih ⟨a, b, hi⟩
    unfold literalSegments at h
    split at h
    · exact hafter h
    · rcases List.infix_cons_iff.mp h with hp | hi
      · have hsecond := (List.cons_prefix_cons.mp (List.cons_prefix_cons.mp hp).2).1
        cases hsecond
      · exact hafter hi

theorem filterMap_path?_segments (d : Division) :
    d.segments.filterMap Segment.path? = d.runs.map fun run => run.2.body.path := by
  have hliteral (literal : List Char) : (literalSegments literal).filterMap Segment.path? = [] := by
    unfold literalSegments
    split <;> rfl
  induction d using induction with
  | nil last => rw [segments_nil, hliteral, List.map_nil]
  | cons literal p runs last ih =>
    have hpath : Segment.path? (.placeholder p.body.path) = some p.body.path := rfl
    rw [segments_cons, List.filterMap_append, hliteral, List.nil_append,
      List.filterMap_cons_some hpath, ih, List.map_cons]

theorem Valid.delimiterFree_iff {d : Division} (h : d.Valid) :
    DelimiterFree d.text ↔ d.runs = [] := by
  obtain ⟨runs, last⟩ := d
  cases runs with
  | nil => exact iff_of_true h.last_free rfl
  | cons run runs =>
    obtain ⟨literal, p⟩ := run
    have hdouble : HasDouble '{' (text ⟨(literal, p) :: runs, last⟩) := by
      rw [text_cons, hasDouble_append, hasDouble_cons_cons]
      exact Or.inr (Or.inl (Or.inl ⟨rfl, rfl⟩))
    exact iff_of_false (fun hf => hf.1 hdouble) (List.cons_ne_nil _ _)

/-- What a leaf is that was read from the division `d`. -/
structure Describes (d : Division) (leaf : Leaf) : Prop where
  segments_eq : leaf.segments = d.segments
  literal_ne_empty : .literal "" ∉ leaf.segments
  literals_apart : ¬ LiteralsMeet leaf.segments
  varPaths_eq : leaf.varPaths = d.runs.map fun run => run.2.body.path
  path_texts : leaf.varPaths.map VarPath.text = d.runs.map fun run => String.ofList run.2.body.text
  isLiteral_iff_runs : leaf.isLiteral = true ↔ d.runs = []
  isLiteral_iff_free : leaf.isLiteral = true ↔ DelimiterFree d.text

theorem Valid.describes {d : Division} (h : d.Valid) : d.Describes (ofSegments d.segments) := by
  have hpaths : (ofSegments d.segments).varPaths = d.runs.map fun run => run.2.body.path :=
    d.filterMap_path?_segments
  have hliteral : (ofSegments d.segments).isLiteral = true ↔ d.runs = [] := by
    rw [isLiteral, hpaths, List.isEmpty_iff, List.map_eq_nil_iff]
  refine ⟨rfl, d.literal_empty_not_mem, d.not_literalsMeet, hpaths, ?_, hliteral,
    hliteral.trans h.delimiterFree_iff.symm⟩
  rw [hpaths, List.map_map]
  exact List.map_congr_left fun run _ => run.2.body.text_path

end Division

/-- A text is read as its division says. -/
theorem parse_eq_ok_iff {s : String} {leaf : Leaf} :
    parse s = .ok leaf ↔
      ∃ d : Division, d.Valid ∧ d.text = s.toList ∧ ofSegments d.segments = leaf := by
  constructor
  · intro h
    cases hscan : scan 0 s.toList with
    | error e =>
      rw [parse, hscan] at h
      cases h
    | ok segments =>
      obtain ⟨d, hd, htext⟩ := Division.exists_of_scan hscan
      rw [parse, ← htext, hd.scan] at h
      exact ⟨d, hd, htext, Except.ok.inj h⟩
  · intro hdivision
    obtain ⟨d, hd, htext, rfl⟩ := hdivision
    rw [parse, ← htext, hd.scan]
    rfl

theorem parse_eq_error_iff {s : String} {e : SyntaxError} :
    parse s = .error e ↔ scan 0 s.toList = .error e := by
  rw [parse]
  cases scan 0 s.toList <;> simp [Except.map]

/-- The leaves are the texts that have a division, and the division says what is read. -/
theorem parse_iff_unique_division (s : String) :
    ((∃ leaf, parse s = .ok leaf) ↔ ∃ d : Division, d.Valid ∧ d.text = s.toList) ∧
      ∀ d : Division, d.Valid → d.text = s.toList →
        (∀ e : Division, e.Valid → e.text = s.toList → e = d) ∧
          ∃ leaf, parse s = .ok leaf ∧ d.Describes leaf := by
  have hparse (d : Division) (hd : d.Valid) (ht : d.text = s.toList) :
      parse s = .ok (ofSegments d.segments) := by
    rw [parse, ← ht, hd.scan]
    rfl
  refine ⟨⟨?_, ?_⟩, ?_⟩
  · intro hok
    obtain ⟨leaf, h⟩ := hok
    cases hscan : scan 0 s.toList with
    | error e =>
      rw [parse, hscan] at h
      cases h
    | ok segments => exact Division.exists_of_scan hscan
  · intro hdivision
    obtain ⟨d, hd, ht⟩ := hdivision
    exact ⟨_, hparse d hd ht⟩
  · intro d hd ht
    exact ⟨fun e he het => he.unique hd (het.trans ht.symm), _, hparse d hd ht, hd.describes⟩

/-- The leaf `}{{ b.0 }}}{{_x}}`, in which single braces stand beside placeholders. -/
def bracesLeaf : String := "\x7d\x7b\x7b b.0 \x7d\x7d\x7d\x7b\x7b_x\x7d\x7d"

/-- Its division: the single braces are literal text. -/
def bracesDivision : Division :=
  ⟨[(['}'], ⟨[' '], ⟨['b'], [['0']]⟩, [' ']⟩), (['}'], ⟨[], ⟨['_', 'x'], []⟩, []⟩)], []⟩

theorem parse_bracesLeaf :
    bracesDivision.Valid ∧ bracesDivision.text = bracesLeaf.toList ∧
      ∃ leaf, parse bracesLeaf = .ok leaf ∧ bracesDivision.Describes leaf := by
  have hvalid : bracesDivision.Valid := by decide
  have htext : bracesDivision.text = bracesLeaf.toList := by decide
  exact ⟨hvalid, htext, ((parse_iff_unique_division _).2 bracesDivision hvalid htext).2⟩

end Stencil.Leaf
