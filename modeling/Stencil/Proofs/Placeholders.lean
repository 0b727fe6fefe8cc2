import Mathlib.Data.List.TakeWhile
import Stencil.Proofs.Delimiters

/-!
# Placeholders as they are written

The grammar of what stands between `{{` and `}}`: blanks, a dotted path, blanks. `readPlaceholder`
accepts exactly the contents of this form, and each of them has only one reading.
-/

namespace Stencil

namespace Text

/-! ## Cutting at separators -/

theorem split_ne_nil (sep : Char) (cs : List Char) : split sep cs ≠ [] := by
  fun_cases split sep cs <;> simp

theorem split_of_not_mem {sep : Char} {part : List Char} (h : sep ∉ part) :
    split sep part = [part] := by
  induction part with
  | nil => rfl
  | cons c part ih =>
    rw [split, if_neg (List.ne_of_not_mem_cons h).symm, ih (List.not_mem_of_not_mem_cons h)]

theorem split_append_sep {sep : Char} {part : List Char} (h : sep ∉ part) (rest : List Char) :
    split sep (part ++ sep :: rest) = part :: split sep rest := by
  induction part with
  | nil => rw [List.nil_append, split, if_pos rfl]
  | cons c part ih =>
    rw [List.cons_append, split, if_neg (List.ne_of_not_mem_cons h).symm,
      ih (List.not_mem_of_not_mem_cons h)]

/-- Cutting at a separator undoes joining with it. -/
theorem split_join {sep : Char} {part : List Char} {parts : List (List Char)} (h : sep ∉ part)
    (hs : ∀ p ∈ parts, sep ∉ p) :
    split sep (part ++ parts.flatMap (sep :: ·)) = part :: parts := by
  induction parts generalizing part with
  | nil => rw [List.flatMap_nil, List.append_nil, split_of_not_mem h]
  | cons p parts ih =>
    obtain ⟨hp, hparts⟩ := List.forall_mem_cons.mp hs
    rw [List.flatMap_cons, List.cons_append, split_append_sep h, ih hp hparts]

/-- Joining with a separator undoes cutting at it. -/
theorem join_split {sep : Char} {cs part : List Char} {parts : List (List Char)}
    (h : split sep cs = part :: parts) :
    cs = part ++ parts.flatMap (sep :: ·) ∧ sep ∉ part ∧ ∀ p ∈ parts, sep ∉ p := by
  fun_induction split sep cs generalizing part parts with
  | case1 =>
    cases h
    exact ⟨rfl, by simp, by simp⟩
  | case2 cs ih =>
    cases h
    cases hs : split sep cs with
    | nil => exact absurd hs (split_ne_nil sep cs)
    | cons p ps =>
      obtain ⟨hcs, hp, hps⟩ := ih hs
      refine ⟨?_, by simp, List.forall_mem_cons.mpr ⟨hp, hps⟩⟩
      rw [List.nil_append, List.flatMap_cons, List.cons_append, ← hcs]
  | case3 c cs hc hs ih => exact absurd hs (split_ne_nil sep cs)
  | case4 c cs hc p ps hs ih =>
    cases h
    obtain ⟨hcs, hp, hps⟩ := ih hs
    exact ⟨congrArg (c :: ·) hcs, List.not_mem_cons_of_ne_of_not_mem (Ne.symm hc) hp, hps⟩

/-- A text without separators behind a text makes its last part longer. -/
theorem split_append_of_not_mem {sep : Char} {cs last tail : List Char} {init : List (List Char)}
    (h : split sep cs = init ++ [last]) (htail : sep ∉ tail) :
    split sep (cs ++ tail) = init ++ [last ++ tail] := by
  have hlonger : ∀ part : List Char, sep ∉ part → sep ∉ part ++ tail := by
    intro part hpart hmem
    exact (List.mem_append.mp hmem).elim hpart htail
  cases init with
  | nil =>
    obtain ⟨hcs, hlast, -⟩ := join_split h
    rw [List.flatMap_nil, List.append_nil] at hcs
    rw [hcs, split_of_not_mem (hlonger last hlast), List.nil_append]
  | cons part parts =>
    obtain ⟨hcs, hpart, hparts⟩ := join_split h
    have hlast : sep ∉ last := hparts last (by simp)
    have hjoined : cs ++ tail = part ++ (parts ++ [last ++ tail]).flatMap (sep :: ·) := by
      rw [hcs]
      simp
    rw [hjoined, split_join hpart, List.cons_append]
    intro p hp
    rcases List.mem_append.mp hp with hp | hp
    · exact hparts p (List.mem_append_left _ hp)
    · rw [List.mem_singleton.mp hp]
      exact hlonger last hlast

/-! ## Trimming -/

/-- No blank is a visible character of ASCII. -/
theorem isBlank_eq_false_of_visible {c : Char} (h : 0x21 ≤ c.toNat) (h' : c.toNat ≤ 0x7E) :
    isBlank c = false := by
  rw [Bool.eq_false_iff]
  intro hb
  obtain ⟨range, hm, hlo, hhi⟩ := CharClass.has_eq_true_iff.mp hb
  simp only [blank, List.mem_cons, List.not_mem_nil, or_false] at hm
  rcases hm with rfl | rfl | rfl | rfl | rfl | rfl | rfl | rfl | rfl | rfl <;>
    simp only at hlo hhi <;> omega

/-- A text that neither starts nor ends with a blank. -/
def Tight (cs : List Char) : Prop :=
  (∀ c, cs.head? = some c → isBlank c = false) ∧ ∀ c, cs.getLast? = some c → isBlank c = false

theorem tight_of_forall {cs : List Char} (h : ∀ c ∈ cs, isBlank c = false) : Tight cs :=
  ⟨fun c hc => h c (List.mem_of_head? hc), fun c hc => h c (List.mem_of_getLast? hc)⟩

theorem trimStart_of_head {cs : List Char} (h : ∀ c, cs.head? = some c → isBlank c = false) :
    trimStart cs = cs := by
  cases cs with
  | nil => rfl
  | cons c cs =>
    have hc : ¬ isBlank c = true := by rw [h c rfl]; exact Bool.false_ne_true
    rw [trimStart, List.dropWhile_cons_of_neg hc]

theorem trimEnd_of_getLast {cs : List Char} (h : ∀ c, cs.getLast? = some c → isBlank c = false) :
    trimEnd cs = cs := by
  have hr : trimStart cs.reverse = cs.reverse :=
    trimStart_of_head fun c hc => h c (by rwa [List.head?_reverse] at hc)
  rw [trimEnd, ← trimStart, hr, List.reverse_reverse]

theorem trimEnd_append {cs trail : List Char} (ht : ∀ c ∈ trail, isBlank c = true) :
    trimEnd (cs ++ trail) = trimEnd cs := by
  have hr : ∀ c ∈ trail.reverse, isBlank c = true := fun c hc => ht c (List.mem_reverse.mp hc)
  rw [trimEnd, List.reverse_append, List.dropWhile_append_of_pos hr, trimEnd]

theorem trim_of_blank {cs : List Char} (h : ∀ c ∈ cs, isBlank c = true) : trim cs = [] := by
  rw [trim, trimStart, List.dropWhile_eq_nil_iff.mpr h]
  rfl

/-- Trimming takes the blanks around a text away, and nothing else. -/
theorem trim_padded {lead body trail : List Char} (hl : ∀ c ∈ lead, isBlank c = true)
    (hb : Tight body) (ht : ∀ c ∈ trail, isBlank c = true) :
    trim (lead ++ body ++ trail) = body := by
  cases body with
  | nil =>
    refine trim_of_blank fun c hc => ?_
    rw [List.append_nil] at hc
    exact (List.mem_append.mp hc).elim (hl c) (ht c)
  | cons b body =>
    have hs : trimStart (lead ++ (b :: body) ++ trail) = b :: body ++ trail := by
      rw [trimStart, List.append_assoc, List.dropWhile_append_of_pos hl]
      exact trimStart_of_head fun c hc => hb.1 c hc
    rw [trim, hs, trimEnd_append ht, trimEnd_of_getLast hb.2]

/-- A text is its trimmed form with blanks around it. -/
theorem exists_padding (cs : List Char) :
    ∃ lead trail, cs = lead ++ trim cs ++ trail ∧ (∀ c ∈ lead, isBlank c = true) ∧
      ∀ c ∈ trail, isBlank c = true := by
  refine ⟨cs.takeWhile isBlank, ((trimStart cs).reverse.takeWhile isBlank).reverse, ?_, ?_, ?_⟩
  · rw [List.append_assoc, trim, trimEnd, ← List.reverse_append, List.takeWhile_append_dropWhile,
      List.reverse_reverse, trimStart, List.takeWhile_append_dropWhile]
  · intro c hc
    exact List.mem_takeWhile_imp hc
  · intro c hc
    exact List.mem_takeWhile_imp (List.mem_reverse.mp hc)

theorem isBlank_of_head?_trimStart {cs : List Char} {c : Char}
    (h : (trimStart cs).head? = some c) : isBlank c = false := by
  have hhead := List.head?_dropWhile_not isBlank cs
  rw [← trimStart, h] at hhead
  simpa using hhead

theorem tight_trim (cs : List Char) : Tight (trim cs) := by
  constructor
  · intro c hc
    have hsplit := List.takeWhile_append_dropWhile (p := isBlank) (l := (trimStart cs).reverse)
    have hstart : trimStart cs = trim cs ++ ((trimStart cs).reverse.takeWhile isBlank).reverse := by
      rw [trim, trimEnd, ← List.reverse_append, hsplit, List.reverse_reverse]
    have hhead : (trimStart cs).head? = some c := by
      rw [hstart, List.head?_append, hc]
      rfl
    exact isBlank_of_head?_trimStart hhead
  · intro c hc
    rw [trim, trimEnd, List.getLast?_reverse] at hc
    exact isBlank_of_head?_trimStart hc

/-- The blanks in front of a text that starts with none can be told from it. -/
theorem padding_unique {lead lead' body body' : List Char} (hl : ∀ c ∈ lead, isBlank c = true)
    (hl' : ∀ c ∈ lead', isBlank c = true) (hb : ∀ c, body.head? = some c → isBlank c = false)
    (hb' : ∀ c, body'.head? = some c → isBlank c = false) (h : lead ++ body = lead' ++ body') :
    lead = lead' ∧ body = body' := by
  have hbody : body = body' := by
    have hd := congrArg trimStart h
    rwa [trimStart, trimStart, List.dropWhile_append_of_pos hl, List.dropWhile_append_of_pos hl',
      ← trimStart, ← trimStart, trimStart_of_head hb, trimStart_of_head hb'] at hd
  rw [hbody] at h
  exact ⟨List.append_cancel_right h, hbody⟩

end Text

namespace VarPath

open Text

/-! ## Names, positions and dotted paths -/

/-- A letter from `A` to `Z` or from `a` to `z`, or the underscore. -/
def NameStart (c : Char) : Prop := ('A' ≤ c ∧ c ≤ 'Z') ∨ ('a' ≤ c ∧ c ≤ 'z') ∨ c = '_'

/-- A digit from `0` to `9`. -/
def Digit (c : Char) : Prop := '0' ≤ c ∧ c ≤ '9'

/-- A name: a letter or underscore, and any number of letters, digits and underscores. -/
def Name (cs : List Char) : Prop :=
  ∃ c rest, cs = c :: rest ∧ NameStart c ∧ ∀ d ∈ rest, NameStart d ∨ Digit d

/-- A position: one or more digits. -/
def Index (cs : List Char) : Prop := cs ≠ [] ∧ ∀ d ∈ cs, Digit d

theorem isNameStart_iff {c : Char} : isNameStart c = true ↔ NameStart c := by
  unfold isNameStart Char.isAlpha Char.isUpper Char.isLower NameStart
  simp only [Bool.or_eq_true, Bool.and_eq_true, decide_eq_true_eq, Char.le_def, or_assoc]

theorem isNamePart_iff {c : Char} : isNamePart c = true ↔ NameStart c ∨ Digit c := by
  rw [← isNameStart_iff]
  unfold isNamePart isNameStart Char.isAlphanum Char.isDigit Digit
  simp only [Bool.or_eq_true, Bool.and_eq_true, decide_eq_true_eq, Char.le_def]
  exact or_right_comm

theorem isName_iff {cs : List Char} : isName cs = true ↔ Name cs := by
  cases cs with
  | nil => simp [isName, Name]
  | cons c cs =>
    rw [isName, Bool.and_eq_true, isNameStart_iff, List.all_eq_true]
    constructor
    · intro hname
      obtain ⟨hc, hcs⟩ := hname
      exact ⟨c, cs, rfl, hc, fun d hd => isNamePart_iff.mp (hcs d hd)⟩
    · intro hname
      obtain ⟨c', rest, h, hc, hrest⟩ := hname
      cases h
      exact ⟨hc, fun d hd => isNamePart_iff.mpr (hrest d hd)⟩

theorem isIndex_iff {cs : List Char} : isIndex cs = true ↔ Index cs := by
  simp only [isIndex, Index, Digit, Decimal.isDigit, Bool.and_eq_true, Bool.not_eq_true',
    List.isEmpty_eq_false_iff, List.all_eq_true, decide_eq_true_eq]

instance (cs : List Char) : Decidable (Name cs) := decidable_of_iff _ isName_iff

instance (cs : List Char) : Decidable (Index cs) := decidable_of_iff _ isIndex_iff

/-- The code points of the characters of names and positions. -/
theorem toNat_of_namePart {c : Char} (h : NameStart c ∨ Digit c) :
    0x30 ≤ c.toNat ∧ c.toNat ≤ 0x7A := by
  have hle : ∀ a b : Char, a ≤ b ↔ a.toNat ≤ b.toNat := fun a b => Iff.rfl
  simp only [NameStart, Digit, hle] at h
  rcases h with (⟨h, h'⟩ | ⟨h, h'⟩ | rfl) | ⟨h, h'⟩
  · exact ⟨Nat.le_trans (by decide) h, Nat.le_trans h' (by decide)⟩
  · exact ⟨Nat.le_trans (by decide) h, Nat.le_trans h' (by decide)⟩
  · decide
  · exact ⟨Nat.le_trans (by decide) h, Nat.le_trans h' (by decide)⟩

theorem Name.forall {cs : List Char} (h : Name cs) : ∀ c ∈ cs, NameStart c ∨ Digit c := by
  obtain ⟨c, rest, rfl, hc, hrest⟩ := h
  exact List.forall_mem_cons.mpr ⟨Or.inl hc, hrest⟩

theorem Index.forall {cs : List Char} (h : Index cs) : ∀ c ∈ cs, NameStart c ∨ Digit c :=
  fun c hc => Or.inr (h.2 c hc)

/-- A dotted path as it is written: parts with points between them. -/
structure Written where
  /-- The name of the binding. -/
  root : List Char
  /-- The parts after the first. -/
  steps : List (List Char)

namespace Written

/-- The first part is a name and each other one a name or a position. -/
structure Valid (w : Written) : Prop where
  root_name : Name w.root
  step_part : ∀ step ∈ w.steps, Name step ∨ Index step

instance (w : Written) : Decidable w.Valid :=
  decidable_of_iff (Name w.root ∧ ∀ step ∈ w.steps, Name step ∨ Index step)
    ⟨fun h => ⟨h.1, h.2⟩, fun h => ⟨h.1, h.2⟩⟩

/-- The text of the path. -/
def text (w : Written) : List Char := w.root ++ w.steps.flatMap ('.' :: ·)

/-- The path that is meant. -/
def path (w : Written) : VarPath := ⟨String.ofList w.root, w.steps.map String.ofList⟩

theorem text_path (w : Written) : w.path.text = String.ofList w.text := by
  obtain ⟨root, steps⟩ := w
  have hpoint : "." = String.ofList ['.'] := rfl
  simp only [path, VarPath.text, parts, text]
  induction steps generalizing root with
  | nil => simp
  | cons step steps ih =>
    rw [List.map_cons, String.intercalate_cons_cons, ih step, hpoint, ← String.ofList_append,
      ← String.ofList_append, List.flatMap_cons, List.append_assoc]
    rfl

theorem Valid.part_chars {w : Written} (h : w.Valid) :
    (∀ c ∈ w.root, NameStart c ∨ Digit c) ∧ ∀ step ∈ w.steps, ∀ c ∈ step, NameStart c ∨ Digit c :=
  ⟨h.root_name.forall, fun step hs => (h.step_part step hs).elim Name.forall Index.forall⟩

theorem point_not_mem {cs : List Char} (h : ∀ c ∈ cs, NameStart c ∨ Digit c) : '.' ∉ cs :=
  fun hm => absurd (toNat_of_namePart (h _ hm)).1 (by decide)

/-- Reading the text of a path gives the path. -/
theorem Valid.split {w : Written} (h : w.Valid) : Text.split '.' w.text = w.root :: w.steps :=
  split_join (point_not_mem h.part_chars.1) fun step hs => point_not_mem (h.part_chars.2 step hs)

theorem Valid.ext {v w : Written} (hv : v.Valid) (hw : w.Valid) (h : v.text = w.text) : v = w := by
  have hs := hv.split
  rw [h, hw.split] at hs
  obtain ⟨root, steps⟩ := v
  cases hs
  rfl

/-- The characters of the text of a path are visible and are no braces. -/
theorem Valid.toNat {w : Written} (h : w.Valid) :
    ∀ c ∈ w.text, 0x2E ≤ c.toNat ∧ c.toNat ≤ 0x7A := by
  intro c hc
  have hpart : NameStart c ∨ Digit c → 0x2E ≤ c.toNat ∧ c.toNat ≤ 0x7A :=
    fun hp => ⟨Nat.le_trans (by decide) (toNat_of_namePart hp).1, (toNat_of_namePart hp).2⟩
  rcases List.mem_append.mp hc with hc | hc
  · exact hpart (h.part_chars.1 c hc)
  · obtain ⟨step, hs, hc⟩ := List.mem_flatMap.mp hc
    rcases List.mem_cons.mp hc with rfl | hc
    · decide
    · exact hpart (h.part_chars.2 step hs c hc)

theorem Valid.ne_nil {w : Written} (h : w.Valid) : w.text ≠ [] := by
  obtain ⟨c, rest, hroot, -, -⟩ := h.root_name
  rw [text, hroot]
  exact List.cons_ne_nil _ _

end Written

/-- A text is read as a path exactly if it is a dotted path. -/
theorem ofText?_eq_some_iff {cs : List Char} {path : VarPath} :
    ofText? cs = some path ↔ ∃ w : Written, w.Valid ∧ w.text = cs ∧ w.path = path := by
  constructor
  · intro h
    unfold ofText? at h
    split at h
    · cases h
    · rename_i root steps hs
      split at h
      · rename_i hv
        rw [Bool.and_eq_true, List.all_eq_true] at hv
        cases h
        refine ⟨⟨root, steps⟩, ⟨isName_iff.mp hv.1, fun step hm => ?_⟩, (join_split hs).1.symm, rfl⟩
        rcases (Bool.or_eq_true _ _).mp (hv.2 step hm) with hn | hi
        · exact Or.inl (isName_iff.mp hn)
        · exact Or.inr (isIndex_iff.mp hi)
      · cases h
  · intro hwritten
    obtain ⟨w, hw, rfl, rfl⟩ := hwritten
    have hsteps : w.steps.all (fun step => isName step || isIndex step) = true := by
      rw [List.all_eq_true]
      intro step hm
      rw [Bool.or_eq_true, isName_iff, isIndex_iff]
      exact hw.step_part step hm
    simp only [ofText?, hw.split, isName_iff.mpr hw.root_name, hsteps, Bool.and_self, if_true]
    rfl

end VarPath

namespace Leaf

open Text VarPath

/-! ## Placeholders -/

/-- A placeholder as it is written. -/
structure Placeholder where
  /-- The blanks after `{{`. -/
  lead : List Char
  body : Written
  /-- The blanks before `}}`. -/
  trail : List Char

namespace Placeholder

structure Valid (p : Placeholder) : Prop where
  lead_blank : ∀ c ∈ p.lead, isBlank c = true
  body_valid : p.body.Valid
  trail_blank : ∀ c ∈ p.trail, isBlank c = true

instance (p : Placeholder) : Decidable p.Valid :=
  decidable_of_iff (p.lead.all isBlank = true ∧ p.body.Valid ∧ p.trail.all isBlank = true)
    ⟨fun h => ⟨List.all_eq_true.mp h.1, h.2.1, List.all_eq_true.mp h.2.2⟩,
    fun h => ⟨List.all_eq_true.mpr h.1, h.2, List.all_eq_true.mpr h.3⟩⟩

/-- What stands between the delimiters. -/
def content (p : Placeholder) : List Char := p.lead ++ p.body.text ++ p.trail

/-- The text of the placeholder. -/
def text (p : Placeholder) : List Char := '{' :: '{' :: (p.content ++ ['}', '}'])

theorem text_append (p : Placeholder) (rest : List Char) :
    p.text ++ rest = '{' :: '{' :: (p.content ++ '}' :: '}' :: rest) := by
  simp [text]

theorem byteSize_text (p : Placeholder) : byteSize p.text = byteSize p.content + 4 := by
  have hbraces : '{'.utf8Size = 1 ∧ '}'.utf8Size = 1 := by decide
  simp only [text, byteSize_append, byteSize, hbraces]
  omega

theorem Valid.tight {p : Placeholder} (h : p.Valid) : Tight p.body.text :=
  tight_of_forall fun c hc =>
    isBlank_eq_false_of_visible (Nat.le_trans (by decide) (h.body_valid.toNat c hc).1)
      (Nat.le_trans (h.body_valid.toNat c hc).2 (by decide))

theorem Valid.trim {p : Placeholder} (h : p.Valid) : Text.trim p.content = p.body.text :=
  trim_padded h.lead_blank h.tight h.trail_blank

/-- No brace stands between the delimiters. -/
theorem Valid.brace_not_mem {p : Placeholder} (h : p.Valid) {mark : Char}
    (hm : mark = '{' ∨ mark = '}') : mark ∉ p.content := by
  have hblank : isBlank mark = false := by
    rcases hm with rfl | rfl <;> decide
  have hbound : 0x7A < mark.toNat := by
    rcases hm with rfl | rfl <;> decide
  intro hc
  rcases List.mem_append.mp hc with hc | hc
  · rcases List.mem_append.mp hc with hc | hc
    · rw [h.lead_blank mark hc] at hblank
      cases hblank
    · exact absurd (h.body_valid.toNat mark hc).2 (Nat.not_le.mpr hbound)
  · rw [h.trail_blank mark hc] at hblank
    cases hblank

/-- A content has one reading. -/
theorem Valid.ext {p q : Placeholder} (hp : p.Valid) (hq : q.Valid) (h : p.content = q.content) :
    p = q := by
  have hbody : p.body = q.body :=
    hp.body_valid.ext hq.body_valid (by rw [← hp.trim, ← hq.trim, h])
  obtain ⟨lead, body, trail⟩ := p
  obtain ⟨lead', body', trail'⟩ := q
  obtain rfl : body = body' := hbody
  have head_tight (rest : List Char) (c : Char) (hc : (body.text ++ rest).head? = some c) :
      isBlank c = false := by
    obtain ⟨b, bs, hb⟩ := List.exists_cons_of_ne_nil hp.body_valid.ne_nil
    refine hp.tight.1 c ?_
    rwa [hb] at hc ⊢
  simp only [content, List.append_assoc] at h
  obtain ⟨rfl, htail⟩ :=
    padding_unique hp.lead_blank hq.lead_blank (head_tight trail) (head_tight trail') h
  rw [List.append_cancel_left htail]

end Placeholder

/-- A content is read without a fault exactly if it is that of a placeholder. -/
theorem readPlaceholder_eq_ok_iff {offset : Nat} {content : List Char} {path : VarPath} :
    readPlaceholder offset content = .ok path ↔
      ∃ p : Placeholder, p.Valid ∧ p.content = content ∧ p.body.path = path := by
  constructor
  · intro h
    unfold readPlaceholder at h
    split at h
    · cases h
    · simp only at h
      split at h
      · cases h
      · split at h
        · rename_i hpath
          cases h
          obtain ⟨w, hw, htext, rfl⟩ := ofText?_eq_some_iff.mp hpath
          obtain ⟨lead, trail, hcontent, hlead, htrail⟩ := exists_padding content
          rw [← htext] at hcontent
          exact ⟨⟨lead, w, trail⟩, ⟨hlead, hw, htrail⟩, hcontent.symm, rfl⟩
        · cases h
  · intro hplaceholder
    obtain ⟨p, hp, rfl, rfl⟩ := hplaceholder
    have hcut : cutDouble? '{' p.content = none :=
      cutDouble?_eq_none_iff.mpr (not_hasDouble_of_not_mem (hp.brace_not_mem (Or.inl rfl)))
    have hread : ofText? p.body.text = some p.body.path :=
      ofText?_eq_some_iff.mpr ⟨p.body, hp.body_valid, rfl, rfl⟩
    have hne : p.body.text.isEmpty = false := List.isEmpty_eq_false_iff.mpr hp.body_valid.ne_nil
    simp only [readPlaceholder, hcut, hp.trim, hne, hread, Bool.false_eq_true, if_false]

theorem Placeholder.Valid.read {p : Placeholder} (h : p.Valid) (offset : Nat) :
    readPlaceholder offset p.content = .ok p.body.path :=
  readPlaceholder_eq_ok_iff.mpr ⟨p, h, rfl, rfl⟩

end Leaf

end Stencil
