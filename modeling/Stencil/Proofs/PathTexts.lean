import Stencil.Proofs.Traversal

/-!
# Reading the text of a path

The text of a path has no escapes, so a point or an opening bracket in a key looks like the start of
a step. A plain path has neither in its keys: its text falls into pieces in front of these
characters, and each piece is read as one step. `Path.ofText?` reads exactly the texts of plain
paths, each as the path it was written for. So no two plain paths have the same text.
-/

namespace Stencil

namespace Decimal

/-! ## Numbers as they are written -/

/-- Digits that a number is written with: no zero stands in front of others. -/
def Canonical (ds : List Char) : Prop :=
  ds ≠ [] ∧ (∀ d ∈ ds, isDigit d = true) ∧ (ds.head? = some '0' → ds = ['0'])

instance (ds : List Char) : Decidable (Canonical ds) :=
  inferInstanceAs (Decidable (ds ≠ [] ∧ (∀ d ∈ ds, isDigit d = true) ∧
    (ds.head? = some '0' → ds = ['0'])))

theorem isDigit_iff_toNat {d : Char} : isDigit d = true ↔ 48 ≤ d.toNat ∧ d.toNat ≤ 57 := by
  rw [isDigit, Bool.and_eq_true, decide_eq_true_eq, decide_eq_true_eq]
  exact Iff.rfl

theorem digitValue_eq (d : Char) : digitValue d = d.toNat - 48 := rfl

theorem digitValue_lt {d : Char} (h : isDigit d = true) : digitValue d < 10 := by
  have hrange := isDigit_iff_toNat.mp h
  rw [digitValue_eq]
  omega

/-- A digit is written as itself. -/
theorem digits_digitValue {d : Char} (h : isDigit d = true) : digits (digitValue d) = [d] := by
  have hlt := digitValue_lt h
  have hchar : Nat.digitChar (digitValue d) = d := by
    have hrange := isDigit_iff_toNat.mp h
    rw [← Char.toNat_inj, Nat.toNat_digitChar_of_lt_ten hlt, digitValue_eq]
    omega
  rw [digits, Nat.toDigits_of_lt_base hlt, hchar]

/-- Digits behind those of a positive number stay as they are. -/
theorem digits_ofDigitChars {ds : List Char} (hds : ∀ d ∈ ds, isDigit d = true) {n : Nat}
    (hn : 0 < n) : digits (Nat.ofDigitChars 10 ds n) = digits n ++ ds := by
  induction ds generalizing n with
  | nil => rw [Nat.ofDigitChars_nil, List.append_nil]
  | cons d ds ih =>
    obtain ⟨hd, hds⟩ := List.forall_mem_cons.mp hds
    have hstep : digits (10 * n + digitValue d) = digits n ++ [d] := by
      rw [← digits_digitValue hd]
      exact (Nat.toDigits_append_toDigits (by omega) hn (digitValue_lt hd)).symm
    have hpos : 0 < 10 * n + digitValue d := by omega
    calc digits (Nat.ofDigitChars 10 (d :: ds) n)
      _ = digits (Nat.ofDigitChars 10 ds (10 * n + digitValue d)) := by
        rw [Nat.ofDigitChars_cons, digitValue]
      _ = digits n ++ d :: ds := by
        rw [ih hds hpos, hstep, List.append_assoc, List.singleton_append]

theorem value_digits (n : Nat) : value (digits n) = n := Nat.ofDigitChars_ten_toDigits

theorem digits_value {ds : List Char} (h : Canonical ds) : digits (value ds) = ds := by
  obtain ⟨hne, hds, hzero⟩ := h
  cases ds with
  | nil => exact absurd rfl hne
  | cons d ds =>
    obtain ⟨hd, hds⟩ := List.forall_mem_cons.mp hds
    by_cases hd0 : d = '0'
    · rw [hzero (congrArg some hd0)]
      rfl
    · have hpos : 0 < digitValue d := by
        have hrange := isDigit_iff_toNat.mp hd
        have hne : d.toNat ≠ 48 := fun heq => hd0 (Char.toNat_inj.mp heq)
        rw [digitValue_eq]
        omega
      have hvalue : value (d :: ds) = Nat.ofDigitChars 10 ds (digitValue d) := by
        rw [value, List.foldl_cons, Nat.mul_zero, Nat.zero_add]
        rfl
      rw [hvalue, digits_ofDigitChars hds hpos, digits_digitValue hd, List.singleton_append]

theorem canonical_digits (n : Nat) : Canonical (digits n) := by
  refine ⟨Nat.toDigits_ne_nil, fun d hd => ?_, ?_⟩
  · have hdigit := Nat.isDigit_of_mem_toDigits (by omega) (by omega) hd
    rw [Char.isDigit, Bool.and_eq_true, decide_eq_true_eq, decide_eq_true_eq] at hdigit
    exact isDigit_iff_toNat.mpr hdigit
  · induction n using Nat.strongRecOn with
    | ind n ih =>
      intro hhead
      by_cases hlt : n < 10
      · rw [digits, Nat.toDigits_of_lt_base hlt] at hhead ⊢
        rw [Option.some.inj hhead]
      · -- The digits but the last are those of a smaller number, which is not zero.
        have hsplit : digits n = digits (n / 10) ++ [Nat.digitChar (n % 10)] :=
          Nat.toDigits_of_base_le (by omega) (by omega)
        have hfront : (digits (n / 10)).head? = some '0' := by
          obtain ⟨d, ds, hds⟩ := List.exists_cons_of_ne_nil
            (show digits (n / 10) ≠ [] from Nat.toDigits_ne_nil)
          rw [hsplit, hds] at hhead
          rw [hds]
          exact hhead
        have hquotient := value_digits (n / 10)
        rw [ih (n / 10) (by omega) hfront] at hquotient
        have hzero : value ['0'] = 0 := rfl
        omega

end Decimal

namespace Path

/-! ## Cutting a text in front of its steps -/

/-- Whether `c` starts a step. -/
def startsStep (c : Char) : Bool := c = '.' || c = '['

/-- The text in front of the first character that starts a step, and the pieces that such characters
    start. -/
def pieces : List Char → List Char × List (List Char)
  | [] => ([], [])
  | c :: cs =>
    let (lead, rest) := pieces cs
    if startsStep c then ([], (c :: lead) :: rest) else (c :: lead, rest)

/-- No step starts in the text. -/
def Stepless (cs : List Char) : Prop := ∀ c ∈ cs, startsStep c = false

/-- A step starts with the text, and no other one starts in it. -/
def IsPiece (cs : List Char) : Prop :=
  ∃ mark rest, cs = mark :: rest ∧ startsStep mark = true ∧ Stepless rest

theorem pieces_stepless_append {lead : List Char} (h : Stepless lead) (cs : List Char) :
    pieces (lead ++ cs) = (lead ++ (pieces cs).1, (pieces cs).2) := by
  induction lead with
  | nil => rfl
  | cons c lead ih =>
    obtain ⟨hc, hlead⟩ := List.forall_mem_cons.mp h
    rw [List.cons_append, pieces, ih hlead]
    simp only [hc, Bool.false_eq_true, if_false, List.cons_append]

theorem pieces_mark {mark : Char} (h : startsStep mark = true) (cs : List Char) :
    pieces (mark :: cs) = ([], (mark :: (pieces cs).1) :: (pieces cs).2) := by
  rw [pieces]
  simp only [h, if_true]

/-- Cutting a text undoes joining its pieces. -/
theorem pieces_join {lead : List Char} {ps : List (List Char)} (hlead : Stepless lead)
    (hps : ∀ p ∈ ps, IsPiece p) : pieces (lead ++ ps.flatten) = (lead, ps) := by
  induction ps generalizing lead with
  | nil =>
    rw [pieces_stepless_append hlead, List.flatten_nil, pieces, List.append_nil]
  | cons p ps ih =>
    obtain ⟨⟨mark, rest, rfl, hmark, hrest⟩, htail⟩ := List.forall_mem_cons.mp hps
    rw [pieces_stepless_append hlead, List.flatten_cons, List.cons_append, pieces_mark hmark,
      ih hrest htail, List.append_nil]

/-- Joining the pieces of a text undoes cutting it. -/
theorem join_pieces (cs : List Char) :
    (pieces cs).1 ++ (pieces cs).2.flatten = cs ∧ Stepless (pieces cs).1 ∧
      ∀ p ∈ (pieces cs).2, IsPiece p := by
  induction cs with
  | nil => exact ⟨rfl, List.forall_mem_nil _, List.forall_mem_nil _⟩
  | cons c cs ih =>
    obtain ⟨hjoin, hlead, hps⟩ := ih
    cases hc : startsStep c with
    | true =>
      rw [pieces_mark hc]
      refine ⟨congrArg (c :: ·) hjoin, List.forall_mem_nil _, ?_⟩
      exact List.forall_mem_cons.mpr ⟨⟨c, _, rfl, hc, hlead⟩, hps⟩
    | false =>
      have hone : Stepless [c] := List.forall_mem_singleton.mpr hc
      rw [← List.singleton_append, pieces_stepless_append hone]
      exact ⟨congrArg (c :: ·) hjoin, List.forall_mem_cons.mpr ⟨hc, hlead⟩, hps⟩

end Path

namespace Step

/-! ## One step -/

/-- A key that does not look like anything else in the text of a path. A position never does. -/
def Plain : Step → Prop
  | .key name => name ≠ "" ∧ '.' ∉ name.toList ∧ '[' ∉ name.toList
  | .index _ => True

instance : DecidablePred Plain
  | .key name => inferInstanceAs (Decidable (name ≠ "" ∧ '.' ∉ name.toList ∧ '[' ∉ name.toList))
  | .index _ => inferInstanceAs (Decidable True)

/-- Reads a step that follows another one: a point and a key, or a position in brackets. -/
def ofText? : List Char → Option Step
  | '.' :: name => if name = [] then none else some (.key (String.ofList name))
  | '[' :: cs =>
    if cs.getLast? = some ']' ∧ Decimal.Canonical cs.dropLast then
      some (.index (Decimal.value cs.dropLast))
    else none
  | _ => none

theorem toList_text_key (name : String) : (key name).text.toList = '.' :: name.toList := by
  rw [text, String.toList_append]
  rfl

theorem toList_text_index (i : Nat) :
    (index i).text.toList = '[' :: (Decimal.digits i ++ [']']) := by
  simp only [text, String.toList_append, String.toList_ofList, List.append_assoc]
  rfl

theorem stepless_iff {cs : List Char} : Path.Stepless cs ↔ '.' ∉ cs ∧ '[' ∉ cs := by
  simp only [Path.Stepless, Path.startsStep, Bool.or_eq_false_iff, decide_eq_false_iff_not]
  constructor
  · intro h
    exact ⟨fun hm => (h _ hm).1 rfl, fun hm => (h _ hm).2 rfl⟩
  · rintro ⟨hpoint, hbracket⟩ c hc
    exact ⟨fun heq => hpoint (heq ▸ hc), fun heq => hbracket (heq ▸ hc)⟩

theorem stepless_digits (i : Nat) : Path.Stepless (Decimal.digits i ++ [']']) := by
  intro c hc
  rcases List.mem_append.mp hc with hc | hc
  · have hrange := Decimal.isDigit_iff_toNat.mp ((Decimal.canonical_digits i).2.1 c hc)
    rw [Path.startsStep, Bool.or_eq_false_iff, decide_eq_false_iff_not, decide_eq_false_iff_not]
    constructor
    · rintro rfl
      exact absurd hrange.1 (by decide)
    · rintro rfl
      exact absurd hrange.2 (by decide)
  · rw [List.mem_singleton.mp hc]
    rfl

theorem Plain.isPiece {step : Step} (h : step.Plain) : Path.IsPiece step.text.toList := by
  cases step with
  | key name =>
    rw [toList_text_key]
    exact ⟨'.', _, rfl, rfl, stepless_iff.mpr h.2⟩
  | index i =>
    rw [toList_text_index]
    exact ⟨'[', _, rfl, rfl, stepless_digits i⟩

/-- A plain step is read back from its text. -/
theorem Plain.ofText? {step : Step} (h : step.Plain) : ofText? step.text.toList = some step := by
  cases step with
  | key name =>
    have hne : name.toList ≠ [] := fun hnil => h.1 (String.toList_eq_nil_iff.mp hnil)
    rw [toList_text_key, Step.ofText?, if_neg hne, String.ofList_toList]
  | index i =>
    rw [toList_text_index, Step.ofText?, List.dropLast_concat, Decimal.value_digits, if_pos]
    exact ⟨List.getLast?_concat, Decimal.canonical_digits i⟩

/-- A piece that is read as a step is the text of this step. -/
theorem of_ofText? {p : List Char} {step : Step} (hp : Path.IsPiece p)
    (h : ofText? p = some step) : step.Plain ∧ step.text.toList = p := by
  obtain ⟨mark, rest, rfl, -, hrest⟩ := hp
  unfold Step.ofText? at h
  split at h
  · rename_i name heq
    obtain ⟨rfl, rfl⟩ := List.cons.inj heq
    split at h
    · cases h
    · rename_i hne
      cases h
      rw [toList_text_key, Plain, String.toList_ofList]
      refine ⟨⟨fun hnil => hne ?_, stepless_iff.mp hrest⟩, rfl⟩
      rw [← String.toList_ofList (l := rest), hnil]
      rfl
  · rename_i cs heq
    obtain ⟨rfl, rfl⟩ := List.cons.inj heq
    split at h
    · rename_i hclosed
      obtain ⟨hlast, hcanonical⟩ := hclosed
      obtain ⟨ds, rfl⟩ := List.getLast?_eq_some_iff.mp hlast
      cases h
      refine ⟨trivial, ?_⟩
      rw [toList_text_index, Decimal.digits_value hcanonical, List.dropLast_concat]
    · cases h
  · cases h

/-- A piece is read as the plain step that it is the text of. -/
theorem ofText?_eq_some_iff {p : List Char} {step : Step} (hp : Path.IsPiece p) :
    ofText? p = some step ↔ step.Plain ∧ step.text.toList = p := by
  refine ⟨of_ofText? hp, ?_⟩
  rintro ⟨hplain, rfl⟩
  exact hplain.ofText?

/-- Pieces are read as the plain steps that they are the texts of. -/
theorem mapM_ofText?_eq_some_iff {ps : List (List Char)} {steps : List Step}
    (hps : ∀ p ∈ ps, Path.IsPiece p) :
    ps.mapM ofText? = some steps ↔
      (∀ step ∈ steps, step.Plain) ∧ steps.map (fun step => step.text.toList) = ps := by
  induction ps generalizing steps with
  | nil =>
    rw [List.mapM_nil, List.map_eq_nil_iff]
    constructor
    · intro h
      cases h
      exact ⟨List.forall_mem_nil _, rfl⟩
    · rintro ⟨-, rfl⟩
      rfl
  | cons p ps ih =>
    obtain ⟨hp, hps⟩ := List.forall_mem_cons.mp hps
    rw [List.mapM_cons, Option.bind_eq_bind, Option.bind_eq_some_iff]
    constructor
    · rintro ⟨step, hstep, h⟩
      obtain ⟨rest, hrest, h⟩ := Option.bind_eq_some_iff.mp h
      cases h
      obtain ⟨hplain, htext⟩ := (ofText?_eq_some_iff hp).mp hstep
      obtain ⟨hplains, htexts⟩ := (ih hps).mp hrest
      refine ⟨List.forall_mem_cons.mpr ⟨hplain, hplains⟩, ?_⟩
      rw [List.map_cons, htext, htexts]
    · rintro ⟨hplains, htexts⟩
      cases steps with
      | nil => cases htexts
      | cons step rest =>
        obtain ⟨htext, htexts⟩ := List.cons.inj htexts
        obtain ⟨hplain, hplains⟩ := List.forall_mem_cons.mp hplains
        refine ⟨step, (ofText?_eq_some_iff hp).mpr ⟨hplain, htext⟩, ?_⟩
        rw [(ih hps).mpr ⟨hplains, htexts⟩]
        rfl

end Step

namespace Path

/-! ## Whole paths -/

/-- A path with plain keys only. The path to a lone key that is spelled as the root is written does
    not count. -/
structure Plain (path : Path) : Prop where
  step_plain : ∀ step ∈ path, step.Plain
  ne_root : path ≠ [.key "<root>"]

instance (path : Path) : Decidable path.Plain :=
  decidable_of_iff ((∀ step ∈ path, step.Plain) ∧ path ≠ [.key "<root>"])
    ⟨fun h => ⟨h.1, h.2⟩, fun h => ⟨h.1, h.2⟩⟩

/-- A path from the key at its start and the steps after it. If there is no key at the start, a
    position is, because a key after it would be there itself. -/
def ofParts? : List Char → List Step → Option Path
  | [], .index i :: steps => some (.index i :: steps)
  | [], _ => none
  | c :: cs, steps => some (.key (String.ofList (c :: cs)) :: steps)

/-- Reads the text of a path: `<root>`, or a key without a point, and then steps. -/
def ofText? (s : String) : Option Path :=
  if s = "<root>" then some []
  else ((pieces s.toList).2.mapM Step.ofText?).bind (ofParts? (pieces s.toList).1)

theorem toList_join (steps : List Step) :
    (String.join (steps.map Step.text)).toList =
      (steps.map fun step => step.text.toList).flatten := by
  rw [String.toList_join, List.flatMap_map]
  rfl

theorem toList_text_key (name : String) (steps : List Step) :
    (text (.key name :: steps)).toList =
      name.toList ++ (steps.map fun step => step.text.toList).flatten := by
  rw [text, String.toList_append, toList_join]

theorem toList_text_index (i : Nat) (steps : List Step) :
    (text (.index i :: steps)).toList =
      ((Step.index i :: steps).map fun step => step.text.toList).flatten := by
  rw [text, toList_join]

theorem pieces_text_key {name : String} {steps : List Step}
    (h : ∀ step ∈ Step.key name :: steps, step.Plain) :
    pieces (text (.key name :: steps)).toList =
      (name.toList, steps.map fun step => step.text.toList) := by
  obtain ⟨hname, hsteps⟩ := List.forall_mem_cons.mp h
  rw [toList_text_key]
  refine pieces_join (Step.stepless_iff.mpr hname.2) ?_
  exact List.forall_mem_map.mpr fun step hstep => (hsteps step hstep).isPiece

theorem pieces_text_index {i : Nat} {steps : List Step}
    (h : ∀ step ∈ Step.index i :: steps, step.Plain) :
    pieces (text (.index i :: steps)).toList =
      ([], (Step.index i :: steps).map fun step => step.text.toList) := by
  rw [toList_text_index, ← List.nil_append (List.flatten _)]
  refine pieces_join (List.forall_mem_nil _) ?_
  exact List.forall_mem_map.mpr fun step hstep => (h step hstep).isPiece

/-- Only the root is written as the root is. -/
theorem Plain.text_ne_root {path : Path} (h : path.Plain) (hne : path ≠ []) :
    path.text ≠ "<root>" := by
  obtain ⟨hplain, hroot⟩ := h
  intro htext
  have hpieces : pieces path.text.toList = ("<root>".toList, []) := by
    rw [htext]
    decide
  cases path with
  | nil => exact hne rfl
  | cons step steps =>
    cases step with
    | key name =>
      rw [pieces_text_key hplain] at hpieces
      obtain ⟨hname, hsteps⟩ := Prod.mk.inj hpieces
      rw [String.toList_inj.mp hname, List.map_eq_nil_iff.mp hsteps] at hroot
      exact hroot rfl
    | index i =>
      rw [pieces_text_index hplain] at hpieces
      exact absurd (Prod.mk.inj hpieces).1 (by decide)

theorem ofText?_of_pieces {s : String} {lead : List Char} {steps : List Step} (hs : s ≠ "<root>")
    (hpieces : pieces s.toList = (lead, steps.map fun step => step.text.toList))
    (hsteps : ∀ step ∈ steps, step.Plain) : ofText? s = ofParts? lead steps := by
  have hread : (steps.map fun step => step.text.toList).mapM Step.ofText? = some steps := by
    refine (Step.mapM_ofText?_eq_some_iff ?_).mpr ⟨hsteps, rfl⟩
    exact List.forall_mem_map.mpr fun step hstep => (hsteps step hstep).isPiece
  rw [ofText?, if_neg hs, hpieces, hread, Option.bind_some]

/-- A plain path is read back from its text. -/
theorem Plain.ofText?_text {path : Path} (h : path.Plain) : ofText? path.text = some path := by
  cases path with
  | nil => rfl
  | cons step steps =>
    have hroot := h.text_ne_root (List.cons_ne_nil _ _)
    obtain ⟨hstep, hsteps⟩ := List.forall_mem_cons.mp h.step_plain
    cases step with
    | key name =>
      rw [ofText?_of_pieces hroot (pieces_text_key h.step_plain) hsteps]
      cases hname : name.toList with
      | nil => exact absurd (String.toList_eq_nil_iff.mp hname) hstep.1
      | cons c cs => rw [ofParts?, ← hname, String.ofList_toList]
    | index i =>
      rw [ofText?_of_pieces hroot (pieces_text_index h.step_plain) h.step_plain, ofParts?]

/-- What is put together from plain steps and a key in front of them has plain steps, and its text
    is put together from theirs. -/
theorem of_ofParts? {lead : List Char} {steps : List Step} {path : Path} (hlead : Stepless lead)
    (hsteps : ∀ step ∈ steps, step.Plain) (h : ofParts? lead steps = some path) :
    (∀ step ∈ path, step.Plain) ∧
      path.text.toList = lead ++ (steps.map fun step => step.text.toList).flatten := by
  unfold ofParts? at h
  split at h
  · cases h
    exact ⟨hsteps, toList_text_index _ _⟩
  · cases h
  · cases h
    rw [toList_text_key, String.toList_ofList]
    refine ⟨List.forall_mem_cons.mpr ⟨?_, hsteps⟩, rfl⟩
    rw [Step.Plain, String.toList_ofList]
    refine ⟨?_, Step.stepless_iff.mp hlead⟩
    rw [ne_eq, ← String.toList_eq_nil_iff, String.toList_ofList]
    exact List.cons_ne_nil _ _

/-- A text is read as a path only if it is the text of the path, and the path is plain. -/
theorem of_ofText? {s : String} {path : Path} (h : ofText? s = some path) :
    path.Plain ∧ path.text = s := by
  unfold ofText? at h
  split at h
  · rename_i hs
    cases h
    exact ⟨by decide, hs.symm⟩
  · rename_i hs
    obtain ⟨steps, hsteps, hparts⟩ := Option.bind_eq_some_iff.mp h
    obtain ⟨hjoin, hlead, hps⟩ := join_pieces s.toList
    obtain ⟨hplain, htexts⟩ := (Step.mapM_ofText?_eq_some_iff hps).mp hsteps
    obtain ⟨hpath, htext⟩ := of_ofParts? hlead hplain hparts
    have hread : path.text = s := by
      rw [← String.toList_inj, htext, htexts, hjoin]
    refine ⟨⟨hpath, ?_⟩, hread⟩
    rintro rfl
    exact hs hread.symm

/-- No two plain paths have the same text. -/
theorem Plain.eq_of_text_eq {path other : Path} (h : path.Plain) (h' : other.Plain)
    (htext : path.text = other.text) : path = other := by
  have hread := h.ofText?_text
  rw [htext, h'.ofText?_text] at hread
  exact (Option.some.inj hread).symm

/-- The text of a plain path identifies it: no other plain path has this text, and the text is read
    back as the path. No other text is read as a path. -/
theorem text_identifies :
    (∀ path other : Path, path.Plain → other.Plain → path.text = other.text → path = other) ∧
    ∀ (s : String) (path : Path), ofText? s = some path ↔ path.Plain ∧ path.text = s := by
  refine ⟨fun path other => Plain.eq_of_text_eq, fun s path => ⟨of_ofText?, ?_⟩⟩
  rintro ⟨hpath, rfl⟩
  exact hpath.ofText?_text

/-- A path with keys that look like positions and brackets. -/
def mixedPath : Path := [.index 0, .key "]", .key "10", .index 10]

theorem text_mixedPath :
    mixedPath.Plain ∧ ofText? "[0].].10[10]" = some mixedPath ∧
      ∀ other : Path, other.Plain → other.text = "[0].].10[10]" → other = mixedPath := by
  have hplain : mixedPath.Plain := by decide
  have htext : mixedPath.text = "[0].].10[10]" := by decide
  refine ⟨hplain, (text_identifies.2 _ _).mpr ⟨hplain, htext⟩, fun other hother h => ?_⟩
  exact text_identifies.1 other mixedPath hother hplain (h.trans htext.symm)

/-- None of the conditions on plain paths can go. -/
example : text [.key "<root>"] = text [] ∧ text [.key "", .index 0] = text [.index 0] ∧
    text [.key "a.b"] = text [.key "a", .key "b"] ∧
    text [.key "a[0]"] = text [.key "a", .index 0] := by
  decide

end Path

namespace Tree

/-! ## The leaves of a tree -/

variable {α : Type} {t : Tree α}

/-- If the root is a leaf, there is no other one. -/
theorem eq_nil_of_mem_positions {content : α} {position : Path × α} (ht : t.WellOrdered)
    (hroot : ([], content) ∈ t.positions) (h : position ∈ t.positions) : position.1 = [] := by
  cases Option.some.inj ((mem_positions_iff ht).mp hroot)
  rw [List.mem_singleton.mp h]

/-- A leaf under a key that is spelled as the root is written clashes with no other leaf. -/
theorem eq_of_text_eq_root {position other : Path × α} (ht : t.WellOrdered)
    (hkeys : ∀ position ∈ t.positions, ∀ step ∈ position.1, step.Plain)
    (h : position ∈ t.positions) (h' : other ∈ t.positions) (hother : other.1 = [.key "<root>"])
    (htext : position.1.text = "<root>") : position.1 = other.1 := by
  by_cases hposition : position.1 = [.key "<root>"]
  · exact hposition.trans hother.symm
  · have hplain : position.1.Plain := ⟨hkeys position h, hposition⟩
    by_cases hnil : position.1 = []
    · obtain ⟨path, content⟩ := position
      obtain rfl : path = [] := hnil
      rw [eq_nil_of_mem_positions ht h h'] at hother
      cases hother
    · exact absurd htext (hplain.text_ne_root hnil)

/-- Where all keys are plain, the text of its path tells each leaf from the others. -/
theorem eq_of_text_eq {position other : Path × α} (ht : t.WellOrdered)
    (hkeys : ∀ position ∈ t.positions, ∀ step ∈ position.1, step.Plain)
    (h : position ∈ t.positions) (h' : other ∈ t.positions)
    (htext : position.1.text = other.1.text) : position.1 = other.1 := by
  by_cases hother : other.1 = [.key "<root>"]
  · refine eq_of_text_eq_root ht hkeys h h' hother (htext.trans ?_)
    rw [hother]
    rfl
  · by_cases hposition : position.1 = [.key "<root>"]
    · refine (eq_of_text_eq_root ht hkeys h' h hposition (htext.symm.trans ?_)).symm
      rw [hposition]
      rfl
    · exact Path.Plain.eq_of_text_eq ⟨hkeys position h, hposition⟩ ⟨hkeys other h', hother⟩ htext

/-- Where all keys are plain, the text of the path at which a traversal fails stands for the leaf
    that failed and for no other one. -/
theorem exists_located_of_traverse {β ε : Type} {f : Path → α → Except ε β} {g : α → β} {e : ε}
    (hg : Gives f g) (ht : t.WellOrdered)
    (hkeys : ∀ position ∈ t.positions, ∀ step ∈ position.1, step.Plain)
    (h : t.traverse f [] = .error e) :
    ∃ path content, f path content = .error e ∧
      ∀ position ∈ t.positions, position.1.text = path.text ↔ position = (path, content) := by
  obtain ⟨path, content, -, hat, he⟩ := (traverse_eq_error_iff hg ht).mp h
  have hfailed : (path, content) ∈ t.positions := (mem_positions_iff ht).mpr hat
  refine ⟨path, content, he, fun position hposition => ⟨fun htext => ?_, ?_⟩⟩
  · obtain ⟨other, otherContent⟩ := position
    obtain rfl : other = path := eq_of_text_eq ht hkeys hposition hfailed htext
    -- There is one leaf at most at a path.
    cases hat.symm.trans ((mem_positions_iff ht).mp hposition)
    rfl
  · rintro rfl
    rfl

end Tree

end Stencil
