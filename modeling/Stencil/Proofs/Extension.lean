import Stencil.Proofs.Faults

/-!
# Text that goes on

What text after a leaf can change about the reading of it. The placeholders that were read stay as
they are, so reading goes on in the literal text after the last of them; and a fault that is found
before the end of the text is found in every text that goes on from there. Only a `{{` that nothing
closes may still be closed.
-/

namespace Stencil.Leaf

open Text

namespace Division

/-- The text up to the end of the last placeholder. -/
def front (d : Division) : List Char := text ⟨d.runs, []⟩

/-- The segments up to the last placeholder. -/
def frontSegments (d : Division) : List Segment := segments ⟨d.runs, []⟩

theorem front_append_last (d : Division) : d.front ++ d.last = d.text := by
  rw [front, text, text, List.append_nil]

theorem front_nil (last : List Char) : front ⟨[], last⟩ = [] := rfl

theorem front_cons (literal : List Char) (p : Placeholder) (runs : List (List Char × Placeholder))
    (last : List Char) :
    front ⟨(literal, p) :: runs, last⟩ = literal ++ (p.text ++ front ⟨runs, last⟩) := by
  rw [p.text_append]
  exact text_cons literal p runs []

theorem frontSegments_nil (last : List Char) : frontSegments ⟨[], last⟩ = [] := rfl

theorem frontSegments_cons (literal : List Char) (p : Placeholder)
    (runs : List (List Char × Placeholder)) (last : List Char) :
    frontSegments ⟨(literal, p) :: runs, last⟩ =
      literalSegments literal ++ .placeholder p.body.path :: frontSegments ⟨runs, last⟩ :=
  segments_cons literal p runs []

/-- The placeholders of a leaf are read whatever comes after it, and reading goes on behind them. -/
theorem Valid.scan_append {d : Division} (h : d.Valid) (offset : Nat) (tail : List Char) :
    Leaf.scan offset (d.text ++ tail) =
      (Leaf.scan (offset + byteSize d.front) (d.last ++ tail)).map (d.frontSegments ++ ·) := by
  induction d using Division.induction generalizing offset with
  | nil last =>
    rw [front_nil, frontSegments_nil]
    show Leaf.scan offset (last ++ tail) = (Leaf.scan offset (last ++ tail)).map id
    cases Leaf.scan offset (last ++ tail) <;> rfl
  | cons literal p runs last ih =>
    obtain ⟨hrun, hp, hd⟩ := valid_cons.mp h
    have htext : text ⟨(literal, p) :: runs, last⟩ ++ tail =
        literal ++ '{' :: '{' :: (p.content ++ '}' :: '}' :: (text ⟨runs, last⟩ ++ tail)) := by
      rw [text_cons]
      simp
    have hsize : offset + byteSize (front ⟨(literal, p) :: runs, last⟩) =
        offset + byteSize literal + 2 + byteSize p.content + 2 + byteSize (front ⟨runs, last⟩) := by
      rw [front_cons, byteSize_append, byteSize_append, p.byteSize_text]
      omega
    rw [htext, scan_opening offset hrun hp.enclosed, hp.read, Except.bind, ih hd _, hsize,
      frontSegments_cons]
    cases Leaf.scan (offset + byteSize literal + 2 + byteSize p.content + 2 +
      byteSize (front ⟨runs, last⟩)) (last ++ tail) with
    | error e => rfl
    | ok segments => simp only [Except.map, List.append_assoc, List.cons_append]

end Division

/-! ## Where the fault of a longer text is -/

theorem scan_error_offset {cs : List Char} {offset : Nat} {e : SyntaxError}
    (h : scan offset cs = .error e) :
    ∃ before after, cs = before ++ after ∧ StartsDelimiter after ∧
      offset + byteSize before ≤ e.offset := by
  obtain ⟨before, after, hfirst, hdiagnosis⟩ := scan_error_diagnosis h
  obtain ⟨skipped, rest, -, hoffset, -⟩ := hdiagnosis.exists_delimiter
  exact ⟨before, after, hfirst.split, hfirst.stalled.delimiter, hoffset ▸ Nat.le_add_right _ _⟩

/-- Of a delimiter behind a text without delimiters, the first brace at most is in that text. -/
theorem DelimiterFree.byteSize_le {cs tail before after : List Char} (h : DelimiterFree cs)
    (hsplit : cs ++ tail = before ++ after) (hd : StartsDelimiter after) :
    byteSize cs ≤ byteSize before + 1 := by
  rcases List.append_eq_append_iff.mp hsplit with ⟨inside, rfl, -⟩ | ⟨more, rfl, hafter⟩
  · rw [byteSize_append]
    omega
  · cases more with
    | nil =>
      rw [List.append_nil]
      omega
    | cons c more =>
      rw [hafter, List.cons_append, startsDelimiter_cons] at hd
      obtain ⟨hc, hhead⟩ := hd
      have hbrace : c.utf8Size = 1 := by
        rcases hc with rfl | rfl <;> decide
      cases more with
      | nil => simp only [byteSize_append, byteSize, hbrace, Nat.add_zero, Nat.le_refl]
      | cons c' more =>
        -- Both braces of the delimiter would be in the text.
        obtain rfl : c' = c := by simpa using hhead
        have hseam := (delimiterFree_cons.mp (delimiterFree_append.mp h).2.1).2 c' rfl rfl
        exact absurd hc (not_or.mpr hseam)

/-- A fault in text after a leaf is found in that text, or one brace before it. -/
theorem Division.Valid.le_offset {d : Division} (h : d.Valid) {offset : Nat} {tail : List Char}
    {e : SyntaxError} (he : Leaf.scan offset (d.text ++ tail) = .error e) :
    offset + byteSize d.text ≤ e.offset + 1 := by
  rw [h.scan_append] at he
  cases hscan : Leaf.scan (offset + byteSize d.front) (d.last ++ tail) with
  | ok segments =>
    rw [hscan] at he
    cases he
  | error e' =>
    rw [hscan] at he
    cases he
    obtain ⟨before, after, hsplit, hdelimiter, hoffset⟩ := scan_error_offset hscan
    have hlast := h.last_free.byteSize_le hsplit hdelimiter
    rw [← d.front_append_last, byteSize_append]
    omega

/-! ## What text after a fault can change -/

theorem fault_ne_unterminated {start : Nat} {content : List Char} {e : SyntaxError}
    (h : readPlaceholder start content = .error e) : e.fault ≠ .unterminated := by
  unfold readPlaceholder at h
  split at h
  · cases h
    exact SyntaxFault.noConfusion
  · simp only at h
    split at h
    · cases h
      exact SyntaxFault.noConfusion
    · split at h
      · cases h
      · cases h
        exact SyntaxFault.noConfusion

/-- A fault that does not come from the end of the text stays the same when the text goes on. -/
theorem scan_append_of_error {cs : List Char} {offset : Nat} {e : SyntaxError}
    (h : scan offset cs = .error e) (he : e.fault ≠ .unterminated) (tail : List Char) :
    scan offset (cs ++ tail) = .error e := by
  induction cs using scan_induction generalizing offset with
  | finish cs hfree =>
    rw [scan_finish offset hfree] at h
    cases h
  | closing literal rest hrun =>
    rw [scan_closing offset hrun] at h
    rw [List.append_assoc]
    exact (scan_closing offset hrun (rest ++ tail)).trans h
  | unterminated literal inner hrun hinner =>
    rw [scan_unterminated offset hrun hinner] at h
    cases h
    exact absurd rfl he
  | opening literal content rest hrun hcontent ih =>
    have htext : literal ++ '{' :: '{' :: (content ++ '}' :: '}' :: rest) ++ tail =
        literal ++ '{' :: '{' :: (content ++ '}' :: '}' :: (rest ++ tail)) := by
      simp
    rw [htext, scan_opening_eq_error_iff hrun hcontent]
    exact ((scan_opening_eq_error_iff hrun hcontent).mp h).imp id fun hrest => ⟨hrest.1, ih hrest.2⟩

/-- A text with a `{{` that nothing closes is a leaf up to the first brace of it. -/
theorem exists_division_of_unterminated {cs : List Char} {offset : Nat} {e : SyntaxError}
    (h : scan offset cs = .error e) (he : e.fault = .unterminated) :
    ∃ (d : Division) (tail : List Char), d.Valid ∧ d.text ++ tail = cs ∧
      offset + byteSize d.text = e.offset + 1 := by
  induction cs using scan_induction generalizing offset with
  | finish cs hfree =>
    rw [scan_finish offset hfree] at h
    cases h
  | closing literal rest hrun =>
    rw [scan_closing offset hrun] at h
    cases h
    cases he
  | unterminated literal inner hrun hinner =>
    rw [scan_unterminated offset hrun hinner] at h
    cases h
    have hbrace : '{'.utf8Size = 1 := by decide
    have hfree : DelimiterFree (literal ++ ['{']) :=
      delimiterFree_append.mpr
        ⟨hrun.free, ⟨not_hasDouble_singleton _ _, not_hasDouble_singleton _ _⟩, hrun.seamless []⟩
    refine ⟨⟨[], literal ++ ['{']⟩, '{' :: inner, ⟨by simp, by simp, by simp, hfree⟩, ?_, ?_⟩
    · simp [Division.text]
    · simp only [Division.text, List.flatMap_nil, List.nil_append, byteSize_append, byteSize,
        hbrace]
      omega
  | opening literal content rest hrun hcontent ih =>
    rcases (scan_opening_eq_error_iff hrun hcontent).mp h with hread | ⟨⟨path, hread⟩, hrest⟩
    · exact absurd he (fault_ne_unterminated hread)
    · obtain ⟨p, hp, rfl, -⟩ := readPlaceholder_eq_ok_iff.mp hread
      obtain ⟨⟨runs, last⟩, tail, hd, rfl, hsize⟩ := ih hrest
      refine ⟨⟨(literal, p) :: runs, last⟩, tail, Division.valid_cons.mpr ⟨hrun, hp, hd⟩, ?_, ?_⟩
      · rw [Division.text_cons]
        simp
      · rw [← hsize, Division.text_cons, ← p.text_append, byteSize_append, byteSize_append,
          p.byteSize_text]
        omega

/-! ## Texts that are appended to -/

theorem message_badPath_ne (content : String) :
    (SyntaxFault.badPath content).message ≠ "unterminated placeholder" := by
  intro h
  have hbad : "invalid placeholder expression `".toList.head? = some 'i' := by decide +kernel
  have hopen : "unterminated placeholder".toList.head? = some 'u' := by decide +kernel
  have hhead : ("invalid placeholder expression `" ++ content ++ "`").toList.head? = some 'u' :=
    (congrArg (fun text => text.toList.head?) h).trans hopen
  rw [String.toList_append, String.toList_append, List.append_assoc, List.head?_append,
    hbad] at hhead
  cases hhead

/-- The wording of a fault tells whether it is a `{{` that nothing closes. -/
theorem message_eq_unterminated_iff {fault : SyntaxFault} :
    fault.message = "unterminated placeholder" ↔ fault = .unterminated := by
  cases fault with
  | badPath content => exact iff_of_false (message_badPath_ne content) nofun
  | _ => decide

/-- Faults are reported from left to right: text that is appended does not change a fault that was
    found before the end, and brings none to the left of a `{{` that was not closed or of the last
    brace of a leaf. -/
theorem parse_append_keeps_faults (s t : String) :
    (∀ e, parse s = .error e → e.fault.message ≠ "unterminated placeholder" →
      parse (s ++ t) = .error e) ∧
    (∀ e, parse s = .error e → e.fault.message = "unterminated placeholder" →
      ∀ e', parse (s ++ t) = .error e' → e.offset ≤ e'.offset) ∧
    ∀ leaf, parse s = .ok leaf →
      ∀ e', parse (s ++ t) = .error e' → s.utf8ByteSize ≤ e'.offset + 1 := by
  simp only [parse_eq_error_iff, String.toList_append, ne_eq, message_eq_unterminated_iff]
  refine ⟨fun e h he => scan_append_of_error h he t.toList, fun e h he e' h' => ?_,
    fun leaf h e' h' => ?_⟩
  · obtain ⟨d, tail, hd, htext, hsize⟩ := exists_division_of_unterminated h he
    rw [← htext, List.append_assoc] at h'
    have hle := hd.le_offset h'
    omega
  · obtain ⟨d, hd, htext, -⟩ := parse_eq_ok_iff.mp h
    rw [← htext] at h'
    have hle := hd.le_offset h'
    rw [utf8ByteSize_eq, ← htext]
    omega

/-- A nested `{{` stays what is wrong. A `{{` that nothing closed is closed, and what is wrong is
    after it. A leaf that ends with a brace opens a delimiter there. -/
theorem parse_append_stray_braces :
    parse ("\x7b\x7ba \x7b\x7bb\x7d\x7d" ++ "\x7d\x7d") = .error ⟨4, .nestedOpen⟩ ∧
      (∃ e, parse ("a\x7b\x7bx" ++ "\x7d\x7d\x7d\x7d") = .error e ∧ 1 ≤ e.offset) ∧
      ∃ e, parse ("a\x7b" ++ "\x7b") = .error e ∧ 2 ≤ e.offset + 1 := by
  have hnested : parse "\x7b\x7ba \x7b\x7bb\x7d\x7d" = .error ⟨4, .nestedOpen⟩ := by decide +kernel
  have hopen : parse "a\x7b\x7bx" = .error ⟨1, .unterminated⟩ := by decide +kernel
  have hbrace : parse "a\x7b" = .ok (ofSegments [.literal "a\x7b"]) := by decide +kernel
  have hclosed : parse ("a\x7b\x7bx" ++ "\x7d\x7d\x7d\x7d") = .error ⟨6, .unbalancedClose⟩ := by
    decide +kernel
  have hopened : parse ("a\x7b" ++ "\x7b") = .error ⟨1, .unterminated⟩ := by decide +kernel
  obtain ⟨hkept, -, -⟩ := parse_append_keeps_faults "\x7b\x7ba \x7b\x7bb\x7d\x7d" "\x7d\x7d"
  obtain ⟨-, hlater, -⟩ := parse_append_keeps_faults "a\x7b\x7bx" "\x7d\x7d\x7d\x7d"
  obtain ⟨-, -, hend⟩ := parse_append_keeps_faults "a\x7b" "\x7b"
  exact ⟨hkept _ hnested (by decide), ⟨_, hclosed, hlater _ hopen rfl _ hclosed⟩,
    _, hopened, hend _ hbrace _ hopened⟩

end Stencil.Leaf
