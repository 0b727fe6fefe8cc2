import Mathlib.Order.Bounds.Defs
import Stencil.Proofs.LeafGrammar

/-!
# What is reported about a malformed leaf

A text is read up to the first delimiter that neither belongs to a placeholder nor opens one. A
`Diagnosis` says, from the text that starts with this delimiter alone, which fault is reported and
at which byte: in all cases but one it is the byte of the delimiter itself.
-/

namespace Stencil.Leaf

open Text

/-! ## Where reading stops -/

/-- The text starts with `{{` or `}}`. -/
def StartsDelimiter (cs : List Char) : Prop :=
  ['{', '{'] <+: cs ∨ ['}', '}'] <+: cs

/-- The text starts with a placeholder. -/
def StartsPlaceholder (cs : List Char) : Prop :=
  ∃ p : Placeholder, p.Valid ∧ p.text <+: cs

/-- A text is well formed up to a delimiter that does not open a placeholder. -/
structure Stalled (before after : List Char) : Prop where
  division : ∃ d : Division, d.Valid ∧ d.text = before
  delimiter : StartsDelimiter after
  no_placeholder : ¬ StartsPlaceholder after

/-- What is reported about a text whose first delimiter, at the byte offset `k`, is the start of
    `tail` and does not open a placeholder: the byte offset of the fault, and its message. -/
inductive Diagnosis (k : Nat) : (tail : List Char) → (offset : Nat) → (message : String) → Prop
  | unbalanced (rest : List Char) :
    Diagnosis k ('}' :: '}' :: rest) k "unbalanced `\x7d\x7d` without matching `\x7b\x7b`"
  | unterminated (inner : List Char) : ¬ HasDouble '}' inner →
    Diagnosis k ('{' :: '{' :: inner) k "unterminated placeholder"
  /-- The leftmost `{{` of the content is the one after `lead`. -/
  | nested (lead inner rest : List Char) : Enclosed (lead ++ '{' :: '{' :: inner) →
    ¬ HasDouble '{' lead → lead.getLast? ≠ some '{' →
    Diagnosis k ('{' :: '{' :: (lead ++ '{' :: '{' :: inner ++ '}' :: '}' :: rest))
      (k + 2 + byteSize lead) "unexpected `\x7b\x7b` inside placeholder"
  | empty (blanks rest : List Char) : Enclosed blanks → (∀ c ∈ blanks, isBlank c = true) →
    Diagnosis k ('{' :: '{' :: (blanks ++ '}' :: '}' :: rest)) k "empty placeholder"
  /-- The content is `body` with blanks around it, and `body` is no dotted path. -/
  | invalid (lead body trail rest : List Char) : Enclosed (lead ++ body ++ trail) →
    ¬ HasDouble '{' (lead ++ body ++ trail) → (∀ c ∈ lead, isBlank c = true) →
    (∀ c ∈ trail, isBlank c = true) → body ≠ [] → Tight body →
    (¬ ∃ w : VarPath.Written, w.Valid ∧ w.text = body) →
    Diagnosis k ('{' :: '{' :: (lead ++ body ++ trail ++ '}' :: '}' :: rest)) k
      ("invalid placeholder expression `" ++ String.ofList body ++ "`")

theorem startsDelimiter_cons {c : Char} {cs : List Char} :
    StartsDelimiter (c :: cs) ↔ (c = '{' ∨ c = '}') ∧ cs.head? = some c := by
  cases cs with
  | nil => simp [StartsDelimiter]
  | cons d cs =>
    simp only [StartsDelimiter, List.cons_prefix_cons, List.nil_prefix, and_true, List.head?_cons,
      Option.some.injEq]
    constructor
    · rintro (⟨rfl, rfl⟩ | ⟨rfl, rfl⟩)
      · exact ⟨Or.inl rfl, rfl⟩
      · exact ⟨Or.inr rfl, rfl⟩
    · rintro ⟨rfl | rfl, rfl⟩
      · exact Or.inl ⟨rfl, rfl⟩
      · exact Or.inr ⟨rfl, rfl⟩

/-- No delimiter starts in a run of literal text. -/
theorem Run.not_startsDelimiter {mark : Char} {before inside : List Char}
    (h : Run mark (before ++ inside)) (hne : inside ≠ []) (rest : List Char) :
    ¬ StartsDelimiter (inside ++ mark :: rest) := by
  obtain ⟨-, hfree, -⟩ := delimiterFree_append.mp h.free
  have hlast : inside.getLast? ≠ some mark := by
    intro hl
    have hne' := h.getLast?_ne
    rw [List.getLast?_append, hl] at hne'
    exact hne' rfl
  cases inside with
  | nil => exact absurd rfl hne
  | cons c cs =>
    rw [List.cons_append, startsDelimiter_cons]
    rintro ⟨hc, hd⟩
    cases cs with
    | nil =>
      -- The last character of the run would have to be the mark.
      obtain rfl : mark = c := by simpa using hd
      exact hlast rfl
    | cons d cs =>
      obtain rfl : d = c := by simpa using hd
      have hfree' := delimiterFree_cons.mp hfree
      obtain ⟨ho, hc'⟩ := hfree'.2 d rfl rfl
      exact hc.elim ho hc'

/-- The closing delimiter after a content does not end before its last character. -/
theorem Enclosed.not_hasDouble_before {content before inside : List Char} (h : Enclosed content)
    (hsplit : content ++ ['}', '}'] = before ++ inside) (hi : inside ≠ []) :
    ¬ HasDouble '}' before := by
  have hconcat : content ++ ['}'] ++ ['}'] = before ++ inside.dropLast ++ [inside.getLast hi] := by
    rw [List.append_assoc, List.append_assoc, List.dropLast_concat_getLast hi]
    exact hsplit
  have hprefix : before <+: content ++ ['}'] :=
    ⟨inside.dropLast, (List.append_inj_left' hconcat rfl).symm⟩
  intro hdouble
  rcases hasDouble_append.mp (hdouble.trans hprefix.isInfix) with hd | hd | ⟨hd, -⟩
  · exact h.free hd
  · exact not_hasDouble_singleton _ _ hd
  · exact h.getLast?_ne hd

/-- No delimiter starts inside a placeholder whose text up to there is a leaf. -/
theorem Placeholder.Valid.not_startsDelimiter {literal before inside : List Char} {p : Placeholder}
    (hrun : Run '{' literal) (hp : p.Valid) (hsplit : p.text = before ++ inside)
    (hb : before ≠ []) (hi : inside ≠ []) (hd : ∃ d : Division, d.Valid ∧ d.text = literal ++ before)
    (rest : List Char) : ¬ StartsDelimiter (inside ++ rest) := by
  have hopen : '{' ∉ p.content := hp.brace_not_mem (Or.inl rfl)
  cases before with
  | nil => exact absurd rfl hb
  | cons c before =>
    simp only [Placeholder.text, List.cons_append, List.cons.injEq] at hsplit
    obtain ⟨rfl, hsplit⟩ := hsplit
    cases before with
    | nil =>
      -- The second brace of the opening delimiter stands before a character of the content.
      rw [List.nil_append] at hsplit
      rw [← hsplit, List.cons_append, startsDelimiter_cons]
      rintro ⟨-, hhead⟩
      cases hcontent : p.content with
      | nil => simp [hcontent] at hhead
      | cons c content =>
        have hc : c = '{' := by simpa [hcontent] using hhead
        exact hopen (by simp [hcontent, hc])
    | cons c before =>
      simp only [List.cons_append, List.cons.injEq] at hsplit
      obtain ⟨rfl, hsplit⟩ := hsplit
      -- What comes before has the opening delimiter and not the closing one.
      have hfree : ¬ HasDouble '}' before := hp.enclosed.not_hasDouble_before hsplit hi
      obtain ⟨d, hvalid, htext⟩ := hd
      have hok := hvalid.scan 0
      rw [htext, scan_unterminated 0 hrun hfree] at hok
      cases hok

/-- A text that starts with a placeholder is a leaf exactly if the text after the placeholder is. -/
theorem exists_division_iff {literal rest : List Char} {p : Placeholder} (hrun : Run '{' literal)
    (hp : p.Valid) :
    (∃ d : Division, d.Valid ∧ d.text = literal ++ (p.text ++ rest)) ↔
      ∃ d : Division, d.Valid ∧ d.text = rest := by
  constructor
  · rintro ⟨d, hd, htext⟩
    have hok := hd.scan 0
    rw [htext, p.text_append, scan_opening 0 hrun hp.enclosed, hp.read, Except.bind] at hok
    cases hrest : scan (0 + byteSize literal + 2 + byteSize p.content + 2) rest with
    | error e =>
      rw [hrest] at hok
      cases hok
    | ok segments => exact Division.exists_of_scan hrest
  · rintro ⟨⟨runs, last⟩, hd, rfl⟩
    refine ⟨⟨(literal, p) :: runs, last⟩, Division.valid_cons.mpr ⟨hrun, hp, hd⟩, ?_⟩
    rw [Division.text_cons, p.text_append]

/-- Reading does not stop before the end of a placeholder that follows a run of literal text. -/
theorem Stalled.past_placeholder {literal rest before after : List Char} {p : Placeholder}
    (h : Stalled before after) (hrun : Run '{' literal) (hp : p.Valid)
    (hsplit : before ++ after = literal ++ (p.text ++ rest)) :
    ∃ middle, before = literal ++ (p.text ++ middle) ∧ rest = middle ++ after := by
  rcases List.append_eq_append_iff.mp hsplit with ⟨inside, hliteral, hafter⟩ | ⟨more, hbefore, htail⟩
  · -- Reading stops in the run of literal text or at its end.
    exfalso
    rw [hafter] at h
    by_cases hi : inside = []
    · exact h.no_placeholder ⟨p, hp, rest, by rw [hi, List.nil_append]⟩
    · rw [hliteral] at hrun
      exact hrun.not_startsDelimiter hi _ h.delimiter
  · rcases List.append_eq_append_iff.mp htail with ⟨middle, hmore, hrest⟩ | ⟨inside, htext, hafter⟩
    · exact ⟨middle, by rw [hbefore, hmore], hrest⟩
    · rw [hafter] at h
      by_cases hi : inside = []
      · refine ⟨[], ?_, ?_⟩
        · rw [hbefore, htext, hi, List.append_nil, List.append_nil]
        · rw [hafter, hi]
          rfl
      · exfalso
        by_cases hm : more = []
        · exact h.no_placeholder ⟨p, hp, rest, by rw [htext, hm, List.nil_append]⟩
        · have hdivision := h.division
          rw [hbefore] at hdivision
          exact hp.not_startsDelimiter hrun htext hm hi hdivision rest h.delimiter

/-! ## What stops reading -/

theorem not_startsPlaceholder_closing (rest : List Char) :
    ¬ StartsPlaceholder ('}' :: '}' :: rest) := by
  rintro ⟨p, -, htext⟩
  exact absurd (List.cons_prefix_cons.mp htext).1 (by decide)

/-- A placeholder has the closing delimiter in it. -/
theorem not_startsPlaceholder_unterminated {inner : List Char} (h : ¬ HasDouble '}' inner) :
    ¬ StartsPlaceholder ('{' :: '{' :: inner) := by
  rintro ⟨p, -, htext⟩
  simp only [Placeholder.text, List.cons_prefix_cons, true_and] at htext
  exact h ((List.suffix_append p.content ['}', '}']).isInfix.trans htext.isInfix)

/-- The content of a placeholder ends at the first closing delimiter. -/
theorem startsPlaceholder_iff {content : List Char} (h : Enclosed content) (rest : List Char) :
    StartsPlaceholder ('{' :: '{' :: (content ++ '}' :: '}' :: rest)) ↔
      ∃ p : Placeholder, p.Valid ∧ p.content = content := by
  constructor
  · rintro ⟨p, hp, more, htext⟩
    refine ⟨p, hp, ?_⟩
    have hcut : some (content, rest) = some (p.content, more) := by
      rw [← h.cutDouble? rest, ← hp.enclosed.cutDouble? more]
      simp only [Placeholder.text, List.cons_append, List.cons.injEq, true_and] at htext
      rw [← htext, List.append_assoc]
      rfl
    simp only [Option.some.injEq, Prod.mk.injEq] at hcut
    exact hcut.1.symm
  · rintro ⟨p, hp, rfl⟩
    refine ⟨p, hp, rest, ?_⟩
    simp [Placeholder.text]

/-- The fault of a content is that of the placeholder it stands in. -/
theorem diagnosis_of_readPlaceholder {k : Nat} {content : List Char} {e : SyntaxError}
    (h : readPlaceholder k content = .error e) (hc : Enclosed content) (rest : List Char) :
    Diagnosis k ('{' :: '{' :: (content ++ '}' :: '}' :: rest)) e.offset e.fault.message := by
  unfold readPlaceholder at h
  split at h
  · rename_i lead inner hcut
    cases h
    obtain ⟨rfl, hfree, hlast⟩ := cutDouble?_eq_some_iff.mp hcut
    exact .nested lead inner rest hc hfree hlast
  · rename_i hcut
    have hopen := cutDouble?_eq_none_iff.mp hcut
    obtain ⟨lead, trail, hpad, hlead, htrail⟩ := exists_padding content
    simp only at h
    split at h
    · rename_i hempty
      cases h
      rw [List.isEmpty_iff.mp hempty, List.append_nil] at hpad
      refine .empty content rest hc fun c hm => ?_
      rw [hpad] at hm
      exact (List.mem_append.mp hm).elim (hlead c) (htrail c)
    · rename_i hempty
      split at h
      · cases h
      · rename_i hpath
        cases h
        have hne : trim content ≠ [] := fun hnil => hempty (List.isEmpty_iff.mpr hnil)
        have hnone : ¬ ∃ w : VarPath.Written, w.Valid ∧ w.text = trim content := by
          rintro ⟨w, hw, htext⟩
          rw [VarPath.ofText?_eq_some_iff.mpr ⟨w, hw, htext, rfl⟩] at hpath
          cases hpath
        rw [hpad] at hc hopen
        have hdiagnosis : Diagnosis k
            ('{' :: '{' :: (lead ++ trim content ++ trail ++ '}' :: '}' :: rest)) k
            ("invalid placeholder expression `" ++ String.ofList (trim content) ++ "`") :=
          .invalid lead (trim content) trail rest hc hopen hlead htrail hne (tight_trim content)
            hnone
        rw [← hpad] at hdiagnosis
        exact hdiagnosis

/-- The text stops being well formed after `before` and at no earlier place. -/
structure FirstStall (cs before after : List Char) : Prop where
  stalled : Stalled before after
  split : cs = before ++ after
  first : ∀ before' after', Stalled before' after' → cs = before' ++ after' → before <+: before'

/-- A text that stops being well formed at the end of its first run of literal text. -/
theorem firstStall_run {mark : Char} {literal tail : List Char} (h : Run mark literal)
    (hd : StartsDelimiter (mark :: tail)) (hp : ¬ StartsPlaceholder (mark :: tail)) :
    FirstStall (literal ++ mark :: tail) literal (mark :: tail) := by
  refine ⟨⟨⟨⟨[], literal⟩, ⟨by simp, by simp, by simp, h.free⟩, rfl⟩, hd, hp⟩, rfl, ?_⟩
  intro before' after' hstalled hsplit
  rcases List.append_eq_append_iff.mp hsplit with ⟨more, hbefore, -⟩ | ⟨inside, hliteral, hafter⟩
  · exact ⟨more, hbefore.symm⟩
  · by_cases hi : inside = []
    · have hsame : literal = before' := by rw [hliteral, hi, List.append_nil]
      exact ⟨[], by rw [List.append_nil, hsame]⟩
    · rw [hliteral] at h
      have hnone := h.not_startsDelimiter hi tail
      rw [← hafter] at hnone
      exact absurd hstalled.delimiter hnone

/-- A text that starts with a placeholder stops being well formed where the text after it does. -/
theorem FirstStall.after_placeholder {literal rest before after : List Char} {p : Placeholder}
    (h : FirstStall rest before after) (hrun : Run '{' literal) (hp : p.Valid) :
    FirstStall (literal ++ (p.text ++ rest)) (literal ++ (p.text ++ before)) after := by
  obtain ⟨hstalled, hsplit, hfirst⟩ := h
  refine ⟨⟨(exists_division_iff hrun hp).mpr hstalled.division, hstalled.delimiter,
    hstalled.no_placeholder⟩, ?_, ?_⟩
  · rw [hsplit, List.append_assoc, List.append_assoc]
  · intro before' after' hstalled' hsplit'
    obtain ⟨middle, rfl, hrest⟩ := hstalled'.past_placeholder hrun hp hsplit'.symm
    have hmiddle : Stalled middle after' :=
      ⟨(exists_division_iff hrun hp).mp hstalled'.division, hstalled'.delimiter,
        hstalled'.no_placeholder⟩
    have hprefix := hfirst middle after' hmiddle hrest
    exact (List.prefix_append_right_inj _).mpr ((List.prefix_append_right_inj _).mpr hprefix)

/-- A text that cannot be read stops being well formed somewhere, and the fault that is reported is
    the one found there. -/
theorem scan_error_diagnosis {cs : List Char} {offset : Nat} {e : SyntaxError}
    (h : scan offset cs = .error e) :
    ∃ before after, FirstStall cs before after ∧
      Diagnosis (offset + byteSize before) after e.offset e.fault.message := by
  induction cs using scan_induction generalizing offset with
  | finish cs hfree =>
    rw [scan_finish offset hfree] at h
    cases h
  | closing literal rest hrun =>
    rw [scan_closing offset hrun] at h
    cases h
    exact ⟨literal, _,
      firstStall_run hrun (Or.inr ⟨rest, rfl⟩) (not_startsPlaceholder_closing rest),
      .unbalanced rest⟩
  | unterminated literal inner hrun hinner =>
    rw [scan_unterminated offset hrun hinner] at h
    cases h
    exact ⟨literal, _,
      firstStall_run hrun (Or.inl ⟨inner, rfl⟩) (not_startsPlaceholder_unterminated hinner),
      .unterminated inner hinner⟩
  | opening literal content rest hrun hcontent ih =>
    rcases (scan_opening_eq_error_iff hrun hcontent).mp h with hread | ⟨⟨path, hread⟩, hrest⟩
    · have hnone : ¬ StartsPlaceholder ('{' :: '{' :: (content ++ '}' :: '}' :: rest)) := by
        rw [startsPlaceholder_iff hcontent]
        rintro ⟨p, hp, hp'⟩
        rw [← hp', hp.read] at hread
        cases hread
      exact ⟨literal, _, firstStall_run hrun (Or.inl ⟨_, rfl⟩) hnone,
        diagnosis_of_readPlaceholder hread hcontent rest⟩
    · obtain ⟨p, hp, rfl, -⟩ := readPlaceholder_eq_ok_iff.mp hread
      obtain ⟨before, after, hfirst, hdiagnosis⟩ := ih hrest
      refine ⟨literal ++ (p.text ++ before), after, ?_, ?_⟩
      · rw [← p.text_append]
        exact hfirst.after_placeholder hrun hp
      · have hsize : offset + byteSize (literal ++ (p.text ++ before)) =
            offset + byteSize literal + 2 + byteSize p.content + 2 + byteSize before := by
          rw [byteSize_append, byteSize_append, p.byteSize_text]
          omega
        rw [hsize]
        exact hdiagnosis

/-! ## Rejected leaves -/

/-- At the byte offset `k` the text has a delimiter that does not open a placeholder, and it is a
    leaf up to there. -/
def StallsAt (s : String) (k : Nat) : Prop :=
  ∃ before after : String, s = before ++ after ∧ before.utf8ByteSize = k ∧
    (∃ leaf, parse before = .ok leaf) ∧ StartsDelimiter after.toList ∧
      ¬ StartsPlaceholder after.toList

theorem exists_parse_iff {s : String} :
    (∃ leaf, parse s = .ok leaf) ↔ ∃ d : Division, d.Valid ∧ d.text = s.toList := by
  simp only [parse_eq_ok_iff]
  constructor
  · rintro ⟨-, d, hd, htext, -⟩
    exact ⟨d, hd, htext⟩
  · rintro ⟨d, hd, htext⟩
    exact ⟨_, d, hd, htext, rfl⟩

theorem eq_ofList_append {s : String} {before after : List Char} (h : s.toList = before ++ after) :
    s = String.ofList before ++ String.ofList after := by
  rw [← String.ofList_append, ← h, String.ofList_toList]

theorem stallsAt_iff {s : String} {k : Nat} :
    StallsAt s k ↔
      ∃ before after, Stalled before after ∧ s.toList = before ++ after ∧ byteSize before = k := by
  constructor
  · rintro ⟨before, after, rfl, rfl, hleaf, hd, hp⟩
    exact ⟨before.toList, after.toList, ⟨exists_parse_iff.mp hleaf, hd, hp⟩, String.toList_append,
      (utf8ByteSize_eq before).symm⟩
  · rintro ⟨before, after, ⟨hdivision, hd, hp⟩, hs, rfl⟩
    refine ⟨String.ofList before, String.ofList after, eq_ofList_append hs, byteSize_ofList before,
      ?_, ?_, ?_⟩
    · rw [exists_parse_iff, String.toList_ofList]
      exact hdivision
    · rw [String.toList_ofList]
      exact hd
    · rw [String.toList_ofList]
      exact hp

/-- The first place where a text stops being well formed is the least offset at which it does. -/
theorem FirstStall.isLeast {s : String} {before after : List Char}
    (h : FirstStall s.toList before after) : IsLeast {k | StallsAt s k} (byteSize before) := by
  refine ⟨stallsAt_iff.mpr ⟨before, after, h.stalled, h.split, rfl⟩, ?_⟩
  intro k hk
  obtain ⟨before', after', hstalled, hsplit, rfl⟩ := stallsAt_iff.mp hk
  obtain ⟨more, rfl⟩ := h.first before' after' hstalled hsplit
  rw [byteSize_append]
  exact Nat.le_add_right _ _

/-- The fault is at a delimiter of the text that starts with the one where reading stops. -/
theorem Diagnosis.exists_delimiter {k offset : Nat} {tail : List Char} {message : String}
    (h : Diagnosis k tail offset message) :
    ∃ skipped rest, tail = skipped ++ rest ∧ offset = k + byteSize skipped ∧
      StartsDelimiter rest := by
  cases h with
  | unbalanced rest => exact ⟨[], _, rfl, rfl, Or.inr ⟨rest, rfl⟩⟩
  | unterminated inner _ => exact ⟨[], _, rfl, rfl, Or.inl ⟨inner, rfl⟩⟩
  | nested lead inner rest =>
    refine ⟨'{' :: '{' :: lead, '{' :: '{' :: (inner ++ '}' :: '}' :: rest), ?_, ?_,
      Or.inl ⟨_, rfl⟩⟩
    · simp
    · have hbrace : '{'.utf8Size = 1 := by decide
      simp only [byteSize, hbrace]
      omega
  | empty blanks rest => exact ⟨[], _, rfl, rfl, Or.inl ⟨_, rfl⟩⟩
  | invalid lead body trail rest => exact ⟨[], _, rfl, rfl, Or.inl ⟨_, rfl⟩⟩

theorem StartsDelimiter.byteSize_pos {cs : List Char} (h : StartsDelimiter cs) :
    0 < byteSize cs := by
  cases cs with
  | nil => simp [StartsDelimiter] at h
  | cons c cs =>
    have hc := c.utf8Size_pos
    simp only [byteSize]
    omega

/-- A delimiter of a text starts at a byte before its end. -/
theorem StartsDelimiter.offset_lt {s : String} {before after : List Char}
    (h : StartsDelimiter after) (hs : s.toList = before ++ after) :
    byteSize before < s.utf8ByteSize := by
  have hpos := h.byteSize_pos
  rw [utf8ByteSize_eq, hs, byteSize_append]
  omega

/-- A text that is rejected is a leaf up to a first delimiter that opens no placeholder, and the
    fault found there is reported, with a byte offset at which a delimiter of the text starts. -/
theorem parse_error_diagnosis (s : String) (e : SyntaxError) (h : parse s = .error e) :
    (∃ before after : String, s = before ++ after ∧
      IsLeast {k | StallsAt s k} before.utf8ByteSize ∧
      Diagnosis before.utf8ByteSize after.toList e.offset e.fault.message) ∧
    e.offset < s.utf8ByteSize ∧
    ∃ before after : String, s = before ++ after ∧ before.utf8ByteSize = e.offset ∧
      StartsDelimiter after.toList := by
  obtain ⟨before, after, hfirst, hdiagnosis⟩ := scan_error_diagnosis (parse_eq_error_iff.mp h)
  rw [Nat.zero_add] at hdiagnosis
  obtain ⟨skipped, rest, hafter, hoffset, hdelimiter⟩ := hdiagnosis.exists_delimiter
  have hfault : s.toList = (before ++ skipped) ++ rest := by
    rw [hfirst.split, hafter, List.append_assoc]
  have hbytes : byteSize (before ++ skipped) = e.offset := by
    rw [byteSize_append, hoffset]
  refine ⟨⟨String.ofList before, String.ofList after, eq_ofList_append hfirst.split, ?_, ?_⟩, ?_,
    ⟨String.ofList (before ++ skipped), String.ofList rest, eq_ofList_append hfault, ?_, ?_⟩⟩
  · rw [byteSize_ofList]
    exact hfirst.isLeast
  · rw [byteSize_ofList, String.toList_ofList]
    exact hdiagnosis
  · rw [← hbytes]
    exact hdelimiter.offset_lt hfault
  · rw [byteSize_ofList]
    exact hbytes
  · rw [String.toList_ofList]
    exact hdelimiter

/-- The leaf `é{{x}}{{ a {{ b }}`: a placeholder, and then one that another one opens in. -/
def nestedLeaf : String := "é\x7b\x7bx\x7d\x7d\x7b\x7b a \x7b\x7b b \x7d\x7d"

theorem parse_nestedLeaf :
    parse nestedLeaf = .error ⟨12, .nestedOpen⟩ ∧
      (∃ before after : String, nestedLeaf = before ++ after ∧
        IsLeast {k | StallsAt nestedLeaf k} before.utf8ByteSize ∧
        Diagnosis before.utf8ByteSize after.toList 12
          "unexpected `\x7b\x7b` inside placeholder") ∧
      12 < nestedLeaf.utf8ByteSize := by
  have h : parse nestedLeaf = .error ⟨12, .nestedOpen⟩ := by decide +kernel
  obtain ⟨hdiagnosis, hlt, -⟩ := parse_error_diagnosis nestedLeaf ⟨12, .nestedOpen⟩ h
  exact ⟨h, hdiagnosis, hlt⟩

end Stencil.Leaf
