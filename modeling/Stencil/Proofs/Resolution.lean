import Stencil.Proofs.JsonTrees
import Stencil.Proofs.LeafGrammar
import Stencil.Proofs.StrictRendering

/-!
# The value that a path names

A path names one node of the bindings: the first part is the name of a binding, and each further
part is the key of a member or writes the number of an item. Resolving a path finds this node.
Numbers are read as words of 64 bits, which makes no difference to an array whose items words can
count: a number that is too large for a word is too large for the array.
-/

namespace Stencil

namespace VarPath

theorem NameStart.not_digit {c : Char} (h : NameStart c) : ¬Digit c := by
  rintro ⟨-, hle⟩
  rcases h with ⟨hge, -⟩ | ⟨hge, -⟩ | rfl
  · exact absurd (Char.le_trans hge hle) (by decide)
  · exact absurd (Char.le_trans hge hle) (by decide)
  · exact absurd hle (by decide)

/-- No part of a path is both a name and a position. -/
theorem Name.not_index {cs : List Char} (h : Name cs) : ¬Index cs := by
  obtain ⟨c, rest, rfl, hc, -⟩ := h
  exact fun hindex => hc.not_digit (hindex.2 c List.mem_cons_self)

end VarPath

namespace Decimal

theorem isDigit_iff {c : Char} : isDigit c = true ↔ VarPath.Digit c := by
  rw [isDigit, Bool.and_eq_true, decide_eq_true_eq, decide_eq_true_eq, VarPath.Digit]

/-! ## Reading words -/

/-- The number that digits write behind the digits of another one. -/
def valueFrom (total : Nat) (ds : List Char) : Nat :=
  ds.foldl (fun total digit => 10 * total + digitValue digit) total

theorem valueFrom_cons (total : Nat) (d : Char) (ds : List Char) :
    valueFrom total (d :: ds) = valueFrom (10 * total + digitValue d) ds := by
  rw [valueFrom, List.foldl_cons, valueFrom]

/-- Further digits do not make a number smaller. -/
theorem le_valueFrom (total : Nat) (ds : List Char) : total ≤ valueFrom total ds := by
  induction ds generalizing total with
  | nil => exact Nat.le_refl total
  | cons d ds ih =>
    have hstep : total ≤ 10 * total + digitValue d := by omega
    rw [valueFrom_cons]
    exact Nat.le_trans hstep (ih _)

/-- A number, if a word holds it. -/
def word? (n : Nat) : Option Nat := if n < UInt64.size then some n else none

theorem toNat_appendDigit? {d : Char} (hd : isDigit d = true) (total : UInt64) :
    (appendDigit? total d).map UInt64.toNat = word? (10 * total.toNat + digitValue d) := by
  unfold appendDigit? word?
  by_cases hlt : 10 * total.toNat + digitValue d < UInt64.size
  · have hten : (10 : UInt64).toNat = 10 := rfl
    have hsize : UInt64.size = 2 ^ 64 := rfl
    have hword : (10 * total + UInt64.ofNat (digitValue d)).toNat =
        10 * total.toNat + digitValue d := by
      rw [UInt64.toNat_add, UInt64.toNat_mul, UInt64.toNat_ofNat', hten]
      omega
    simp [hd, hlt, hword]
  · simp [hlt]

theorem toNat_foldlM_appendDigit? {ds : List Char} (hds : ∀ d ∈ ds, isDigit d = true)
    (total : UInt64) :
    (ds.foldlM appendDigit? total).map UInt64.toNat = word? (valueFrom total.toNat ds) := by
  induction ds generalizing total with
  | nil => exact (if_pos total.toNat_lt_size).symm
  | cons d ds ih =>
    obtain ⟨hd, hds⟩ := List.forall_mem_cons.mp hds
    have hnext := toNat_appendDigit? hd total
    rw [List.foldlM_cons, valueFrom_cons]
    cases happend : appendDigit? total d with
    | some next =>
      rw [happend, word?] at hnext
      split at hnext
      · rw [← Option.some.inj hnext]
        exact ih hds next
      · cases hnext
    | none =>
      -- The number is too large before the rest of its digits, and it only grows.
      rw [happend, word?] at hnext
      split at hnext
      · cases hnext
      · rename_i hlarge
        have hgrows := le_valueFrom (10 * total.toNat + digitValue d) ds
        rw [word?, if_neg (by omega)]
        rfl

/-- Digits are read as the number that they write, if a word holds it. -/
theorem toNat_readWord? {ds : List Char} (h : VarPath.Index ds) :
    (readWord? ds).map UInt64.toNat = word? (value ds) := by
  obtain ⟨hne, hds⟩ := h
  have hdigits : ∀ d ∈ ds, isDigit d = true := fun d hd => isDigit_iff.mpr (hds d hd)
  have hread : readWord? ds = ds.foldlM appendDigit? 0 := by
    unfold readWord?
    split
    · rename_i rest
      exact absurd (hds '+' List.mem_cons_self).1 (by decide)
    · exact if_neg (by simpa using hne)
  rw [hread]
  exact toNat_foldlM_appendDigit? hdigits 0

/-- A name is not read as a word. -/
theorem readWord?_name {cs : List Char} (h : VarPath.Name cs) : readWord? cs = none := by
  obtain ⟨c, rest, rfl, hc, -⟩ := h
  have hdigit : isDigit c = false := by
    rw [Bool.eq_false_iff, ne_eq, isDigit_iff]
    exact hc.not_digit
  have hread : readWord? (c :: rest) = (c :: rest).foldlM appendDigit? 0 := by
    unfold readWord?
    split
    · rename_i rest' heq
      obtain rfl : c = '+' := (List.cons.inj heq).1
      exact absurd hc (by unfold VarPath.NameStart; decide)
    · rfl
  rw [hread, List.foldlM_cons]
  simp [appendDigit?, hdigit]

end Decimal

namespace Json

open VarPath

/-! ## What a part selects -/

/-- One part of a path leads from a value to one in it: from an object to the member whose key is
    the part, and from an array to the item whose number the part writes in digits. From any other
    value it leads nowhere. -/
inductive Selects (part : String) : Json → Json → Prop
  | member {members : List (String × Json)} {value : Json} (mem : (part, value) ∈ members) :
      Selects part (.obj members) value
  | item {items : List Json} {value : Json} (digits : Index part.toList)
      (getElem? : items[Decimal.value part.toList]? = some value) :
      Selects part (.arr items) value

/-- Several parts lead from a value to one in it, each from where the one before it led. -/
inductive Follows : List String → Json → Json → Prop
  | nil (value : Json) : Follows [] value value
  | cons {part : String} {parts : List String} {value child target : Json}
      (head : Selects part value child) (tail : Follows parts child target) :
      Follows (part :: parts) value target

/-- Words can count the items of every array. -/
inductive Addressable : Json → Prop
  | arr (items : List Json) (length_le : items.length ≤ UInt64.size)
      (values : ∀ item ∈ items, Addressable item) : Addressable (.arr items)
  | obj (members : List (String × Json)) (values : ∀ member ∈ members, Addressable member.2) :
      Addressable (.obj members)
  | leaf (value : Json) (kind_not_mem : value.kind ∉ [Kind.array, .object]) : Addressable value

theorem Addressable.of_arr {items : List Json} (h : (Json.arr items).Addressable) :
    items.length ≤ UInt64.size ∧ ∀ item ∈ items, Addressable item := by
  cases h with
  | arr items length_le values => exact ⟨length_le, values⟩
  | leaf value hkind => exact absurd List.mem_cons_self hkind

theorem Addressable.of_obj {members : List (String × Json)} (h : (Json.obj members).Addressable) :
    ∀ member ∈ members, Addressable member.2 := by
  cases h with
  | obj members values => exact values
  | leaf value hkind => exact absurd (List.mem_cons_of_mem _ List.mem_cons_self) hkind

/-- Values in the form that they have in memory. -/
structure Stored (value : Json) : Prop where
  wellOrdered : value.WellOrdered
  addressable : value.Addressable

variable {part : String} {value child target : Json}

theorem Stored.selects (h : value.Stored) (hs : Selects part value child) : child.Stored := by
  obtain ⟨hordered, haddressable⟩ := h
  cases hs with
  | member mem => exact ⟨wellOrderedMembers_iff.mp hordered.2 _ mem, haddressable.of_obj _ mem⟩
  | item digits getElem? =>
    have mem := List.mem_of_getElem? getElem?
    exact ⟨wellOrderedItems_iff.mp hordered _ mem, haddressable.of_arr.2 _ mem⟩

/-- The item of an array is found by the number that digits write. -/
theorem step?_arr {items : List Json} (h : Index part.toList)
    (hlength : items.length ≤ UInt64.size) :
    step? part (.arr items) = items[Decimal.value part.toList]? := by
  have hread := Decimal.toNat_readWord? h
  have hstep : step? part (.arr items) =
      ((Decimal.readWord? part.toList).map UInt64.toNat).bind fun i => items[i]? := by
    rw [step?, Option.bind_map]
    rfl
  rw [hstep, hread, Decimal.word?]
  split
  · rfl
  · rename_i hlarge
    exact (List.getElem?_eq_none (by omega)).symm

theorem step?_eq_some_iff (h : value.Stored) (hpart : Name part.toList ∨ Index part.toList) :
    value.step? part = some child ↔ Selects part value child := by
  obtain ⟨hordered, haddressable⟩ := h
  cases value with
  | obj members =>
    rw [step?, ← Members.mem_iff_lookup hordered.1]
    constructor
    · exact .member
    · intro hs
      cases hs with
      | member mem => exact mem
  | arr items =>
    rcases hpart with hname | hindex
    · rw [step?, Decimal.readWord?_name hname]
      constructor
      · intro hs
        cases hs
      · intro hs
        cases hs with
        | item digits getElem? => exact absurd digits hname.not_index
    · rw [step?_arr hindex haddressable.of_arr.1]
      constructor
      · exact .item hindex
      · intro hs
        cases hs with
        | item digits getElem? => exact getElem?
  | _ =>
    constructor
    · intro hs
      cases hs
    · intro hs
      cases hs

theorem walk?_eq_some_iff {parts : List String} (h : value.Stored)
    (hparts : ∀ part ∈ parts, Name part.toList ∨ Index part.toList) :
    walk? parts value = some target ↔ Follows parts value target := by
  induction parts generalizing value with
  | nil =>
    rw [walk?, Option.some_inj]
    constructor
    · rintro rfl
      exact .nil value
    · rintro ⟨⟩
      rfl
  | cons part parts ih =>
    obtain ⟨hpart, hparts⟩ := List.forall_mem_cons.mp hparts
    rw [walk?, Option.bind_eq_some_iff]
    constructor
    · intro hwalk
      obtain ⟨child, hstep, hwalk⟩ := hwalk
      have hs := (step?_eq_some_iff h hpart).mp hstep
      exact .cons hs ((ih (h.selects hs) hparts).mp hwalk)
    · intro hfollows
      cases hfollows with
      | cons head tail =>
        exact ⟨_, (step?_eq_some_iff h hpart).mpr head, (ih (h.selects head) hparts).mpr tail⟩

end Json

namespace VarPath

/-- The value that a path names: it starts at the binding of its first part, and takes one step for
    each further part. -/
def Names (path : VarPath) (bindings : Bindings) (target : Json) : Prop :=
  ∃ start, (path.root, start) ∈ bindings ∧ Json.Follows path.steps start target

/-- The parts of a path that was read: a name, and then names and positions. -/
structure WellFormed (path : VarPath) : Prop where
  root_name : Name path.root.toList
  step_part : ∀ step ∈ path.steps, Name step.toList ∨ Index step.toList

theorem Written.Valid.wellFormed {w : Written} (h : w.Valid) : w.path.WellFormed := by
  constructor
  · rw [Written.path, String.toList_ofList]
    exact h.root_name
  · intro step hstep
    obtain ⟨chars, hchars, rfl⟩ := List.mem_map.mp hstep
    rw [String.toList_ofList]
    exact h.step_part chars hchars

variable {path : VarPath} {bindings : Bindings} {target : Json}

/-- A path is resolved to the value that it names. -/
theorem WellFormed.resolve?_eq_some_iff (h : path.WellFormed) (hb : (Json.obj bindings).Stored) :
    path.resolve? bindings = some target ↔ path.Names bindings target := by
  rw [resolve?, Option.bind_eq_some_iff]
  refine exists_congr fun start => ?_
  rw [← Members.mem_iff_lookup hb.wellOrdered.1]
  refine and_congr_right fun hstart => ?_
  exact Json.walk?_eq_some_iff (hb.selects (.member hstart)) h.step_part

theorem WellFormed.resolves_iff (h : path.WellFormed) (hb : (Json.obj bindings).Stored) :
    path.Resolves bindings ↔ ∃ target, path.Names bindings target :=
  exists_congr fun _ => h.resolve?_eq_some_iff hb

end VarPath

namespace Leaf

open VarPath

theorem wellFormed_of_parse {s : String} {leaf : Leaf} (h : parse s = .ok leaf) :
    ∀ path ∈ leaf.varPaths, path.WellFormed := by
  obtain ⟨d, hd, -, rfl⟩ := parse_eq_ok_iff.mp h
  intro path hpath
  rw [varPaths, ofSegments, Division.filterMap_path?_segments] at hpath
  obtain ⟨run, hrun, rfl⟩ := List.mem_map.mp hpath
  exact (hd.placeholder_valid run hrun).body_valid.wellFormed

/-- The text of a leaf has the text of each segment in its place. -/
theorem render_of_segments {leaf : Leaf} {before after : List Segment} {segment : Segment}
    (h : leaf.segments = before ++ segment :: after) (bindings : Bindings) :
    leaf.render bindings = (ofSegments before).render bindings ++ segment.render bindings ++
      (ofSegments after).render bindings := by
  rw [render, h, List.map_append, List.map_cons, String.join_append, String.join_cons,
    ← String.append_assoc]
  rfl

theorem varPaths_of_segments {leaf : Leaf} {before after : List Segment} {path : VarPath}
    (h : leaf.segments = before ++ .placeholder path :: after) :
    leaf.varPaths = (ofSegments before).varPaths ++ path :: (ofSegments after).varPaths := by
  rw [varPaths, h, List.filterMap_append]
  rfl

/-- The variables of a leaf are resolved to the values that their paths name. One that names nothing
    is empty text under the lenient policy, and under the strict one it is reported if all variables
    before it name something. One that names a text is this text, whatever is in it. -/
theorem resolve?_names (s : String) (leaf : Leaf) (h : parse s = .ok leaf) (bindings : Bindings)
    (hb : (Json.obj bindings).Stored) :
    (∀ path ∈ leaf.varPaths, ∀ target,
      path.resolve? bindings = some target ↔ path.Names bindings target) ∧
    ∀ before path after, leaf.segments = before ++ .placeholder path :: after →
      ((∀ target, ¬path.Names bindings target) →
        leaf.render bindings =
            (ofSegments before).render bindings ++ (ofSegments after).render bindings ∧
          ((∀ x ∈ (ofSegments before).varPaths, ∃ target, x.Names bindings target) →
            leaf.renderStrict bindings = .error path)) ∧
      ∀ text, path.Names bindings (.str text) →
        leaf.render bindings =
            (ofSegments before).render bindings ++ text ++ (ofSegments after).render bindings ∧
          ((∀ x ∈ leaf.varPaths, ∃ target, x.Names bindings target) →
            leaf.renderStrict bindings = .ok (leaf.render bindings)) := by
  have hformed := wellFormed_of_parse h
  refine ⟨fun path hpath target => (hformed path hpath).resolve?_eq_some_iff hb, ?_⟩
  intro before path after hsegments
  have hpaths := varPaths_of_segments hsegments
  have hrender := render_of_segments hsegments bindings
  have hpath : path ∈ leaf.varPaths := by
    rw [hpaths]
    exact List.mem_append_right _ List.mem_cons_self
  have hresolves := (hformed path hpath).resolves_iff hb
  constructor
  · intro hnothing
    have hunbound : ¬path.Resolves bindings := by
      rw [hresolves]
      exact not_exists.mpr hnothing
    constructor
    · rw [hrender, Segment.render, inlineText?_eq_none_iff.mpr hunbound, Option.getD_none,
        String.append_empty]
    · intro hbefore
      have hfirst : leaf.firstUnresolved? bindings = some path := by
        refine firstUnresolved?_eq_some_iff.mpr ⟨_, _, hpaths, fun x hx => ?_, hunbound⟩
        have hmem : x ∈ leaf.varPaths := by
          rw [hpaths]
          exact List.mem_append_left _ hx
        exact ((hformed x hmem).resolves_iff hb).mpr (hbefore x hx)
      rw [renderStrict_eq_report, hfirst, report]
  · intro text htext
    have hvalue := ((hformed path hpath).resolve?_eq_some_iff hb).mpr htext
    constructor
    · rw [hrender, Segment.render, inlineText?, hvalue]
      rfl
    · intro hall
      have hnone : leaf.firstUnresolved? bindings = none :=
        firstUnresolved?_eq_none_iff.mpr fun x hx =>
          ((hformed x hx).resolves_iff hb).mpr (hall x hx)
      rw [renderStrict_eq_report, hnone, report]

/-- A leaf with the variables `a.00`, `b.00`, and `b` with a position that no word holds. -/
def positionsLeaf : String :=
  "\x7b\x7ba.00\x7d\x7d-\x7b\x7bb.00\x7d\x7d-\x7b\x7bb.18446744073709551616\x7d\x7d"

/-- Its segments. -/
def positionsSegments : List Segment :=
  [.placeholder ⟨"a", ["00"]⟩, .literal "-", .placeholder ⟨"b", ["00"]⟩, .literal "-",
    .placeholder ⟨"b", ["18446744073709551616"]⟩]

/-- An object with two keys that are one number, and an array of one item. -/
def positionsBindings : Bindings :=
  [("a", .obj [("0", .str "p"), ("00", .str "\x7b\x7bq")]), ("b", .arr [.str "r"])]

theorem stored_positionsBindings : (Json.obj positionsBindings).Stored := by
  refine ⟨⟨by decide, ⟨by decide, trivial, trivial, trivial⟩, ⟨trivial, trivial⟩, trivial⟩, ?_⟩
  have hstr (text : String) : (Json.str text).Addressable := .leaf _ (by simp [Json.kind])
  refine .obj _ ?_
  simp only [positionsBindings, List.forall_mem_cons]
  refine ⟨.obj _ ?_, .arr _ ?_ ?_, List.forall_mem_nil _⟩
  · simp only [List.forall_mem_cons]
    exact ⟨hstr _, hstr _, List.forall_mem_nil _⟩
  · decide
  · simp only [List.forall_mem_cons]
    exact ⟨hstr _, List.forall_mem_nil _⟩

theorem resolve?_positionsLeaf :
    parse positionsLeaf = .ok (ofSegments positionsSegments) ∧
      (Json.obj positionsBindings).Stored ∧
      Names ⟨"a", ["00"]⟩ positionsBindings (.str "\x7b\x7bq") ∧
      Names ⟨"b", ["00"]⟩ positionsBindings (.str "r") ∧
      (∀ target, ¬Names ⟨"b", ["18446744073709551616"]⟩ positionsBindings target) ∧
      (ofSegments positionsSegments).render positionsBindings = "\x7b\x7bq-r-" ∧
      (ofSegments positionsSegments).renderStrict positionsBindings =
        .error ⟨"b", ["18446744073709551616"]⟩ := by
  have hparse : parse positionsLeaf = .ok (ofSegments positionsSegments) := by decide +kernel
  obtain ⟨hnames, hparts⟩ := resolve?_names positionsLeaf _ hparse positionsBindings
    stored_positionsBindings
  have ha : Names ⟨"a", ["00"]⟩ positionsBindings (.str "\x7b\x7bq") :=
    (hnames _ (by decide) _).mp (by rfl)
  have hb : Names ⟨"b", ["00"]⟩ positionsBindings (.str "r") :=
    (hnames _ (by decide) _).mp (by rfl)
  have hwide : ∀ target, ¬Names ⟨"b", ["18446744073709551616"]⟩ positionsBindings target := by
    intro target htarget
    have hresolved := (hnames _ (by decide) target).mpr htarget
    have hnone : resolve? ⟨"b", ["18446744073709551616"]⟩ positionsBindings = none := by rfl
    rw [hnone] at hresolved
    cases hresolved
  obtain ⟨hrender, hstrict⟩ := (hparts (positionsSegments.take 4) _ [] rfl).1 hwide
  refine ⟨hparse, stored_positionsBindings, ha, hb, hwide, hrender.trans (by decide +kernel),
    hstrict ?_⟩
  have hbefore : (ofSegments (positionsSegments.take 4)).varPaths =
      [⟨"a", ["00"]⟩, ⟨"b", ["00"]⟩] := by
    rfl
  rw [hbefore]
  simp only [List.forall_mem_cons]
  exact ⟨⟨_, ha⟩, ⟨_, hb⟩, List.forall_mem_nil _⟩

end Leaf

end Stencil
