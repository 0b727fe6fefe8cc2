import Stencil.Members

/-!
# Records of two fields

A record is read from the members of a map in the order in which they come. Each member is one of
the fields, read on the spot, or it is ignored. A field that no member gives has its default. So the
order of the members decides which error is met, where there are several.
-/

namespace Stencil

theorem except_map_eq_ok_iff {ε α β : Type} {x : Except ε α} {f : α → β} {b : β} :
    x.map f = .ok b ↔ ∃ a, x = .ok a ∧ f a = b := by
  cases x <;> simp [Except.map]

theorem except_map_eq_error_iff {ε α β : Type} {x : Except ε α} {f : α → β} {e : ε} :
    x.map f = .error e ↔ x = .error e := by
  cases x <;> simp [Except.map]

/-- A field of a record: its name, and how to read its value. -/
structure Field (ν ε α : Type) where
  name : String
  read : ν → Except ε α

namespace Field

variable {ν ε α β : Type}

/-- Reads a member of a record with two fields on top of the values that the fields have. -/
def readMember (first : Field ν ε α) (second : Field ν ε β) (fields : α × β)
    (member : String × ν) : Except ε (α × β) :=
  if member.1 = first.name then return (← first.read member.2, fields.2)
  else if member.1 = second.name then return (fields.1, ← second.read member.2)
  else return fields

/-- Reads the members of a record with two fields, given the defaults. -/
def readMembers (first : Field ν ε α) (second : Field ν ε β) (start : α × β)
    (members : List (String × ν)) : Except ε (α × β) :=
  members.foldlM (readMember first second) start

variable {first : Field ν ε α} {second : Field ν ε β} {start fields : α × β} {e : ε}
  {member : String × ν} {members : List (String × ν)}

/-! ## One member -/

theorem readMember_of_first (h : member.1 = first.name) :
    readMember first second start member =
      (first.read member.2).map fun a => (a, start.2) := by
  rw [readMember, if_pos h]
  cases first.read member.2 <;> rfl

theorem readMember_of_second (hfirst : member.1 ≠ first.name) (h : member.1 = second.name) :
    readMember first second start member =
      (second.read member.2).map fun b => (start.1, b) := by
  rw [readMember, if_neg hfirst, if_pos h]
  cases second.read member.2 <;> rfl

theorem readMember_of_other (hfirst : member.1 ≠ first.name) (hsecond : member.1 ≠ second.name) :
    readMember first second start member = .ok start := by
  rw [readMember, if_neg hfirst, if_neg hsecond]
  rfl

/-- An error is that of the field that the member gives. -/
theorem of_readMember_eq_error (h : readMember first second start member = .error e) :
    (member.1 = first.name ∧ first.read member.2 = .error e) ∨
      (member.1 = second.name ∧ second.read member.2 = .error e) := by
  by_cases hfirst : member.1 = first.name
  · rw [readMember_of_first hfirst, except_map_eq_error_iff] at h
    exact Or.inl ⟨hfirst, h⟩
  · by_cases hsecond : member.1 = second.name
    · rw [readMember_of_second hfirst hsecond, except_map_eq_error_iff] at h
      exact Or.inr ⟨hsecond, h⟩
    · rw [readMember_of_other hfirst hsecond] at h
      cases h

/-- The first field has what the member gives, if the member gives it, or else what it had. -/
theorem of_readMember_eq_ok (h : readMember first second start member = .ok fields) :
    (member.1 = first.name → first.read member.2 = .ok fields.1) ∧
      (member.1 ≠ first.name → fields.1 = start.1) := by
  by_cases hfirst : member.1 = first.name
  · rw [readMember_of_first hfirst] at h
    obtain ⟨a, ha, rfl⟩ := except_map_eq_ok_iff.mp h
    exact ⟨fun _ => ha, fun hne => absurd hfirst hne⟩
  · refine ⟨fun heq => absurd heq hfirst, fun _ => ?_⟩
    by_cases hsecond : member.1 = second.name
    · rw [readMember_of_second hfirst hsecond] at h
      obtain ⟨b, -, rfl⟩ := except_map_eq_ok_iff.mp h
      rfl
    · rw [readMember_of_other hfirst hsecond] at h
      cases h
      rfl

theorem readMember_swap (h : first.name ≠ second.name) (member : String × ν) :
    readMember second first start.swap member =
      (readMember first second start member).map Prod.swap := by
  by_cases hfirst : member.1 = first.name
  · have hsecond : member.1 ≠ second.name := fun heq => h (hfirst.symm.trans heq)
    rw [readMember_of_first hfirst, readMember_of_second hsecond hfirst]
    cases first.read member.2 <;> rfl
  · by_cases hsecond : member.1 = second.name
    · rw [readMember_of_first hsecond, readMember_of_second hfirst hsecond]
      cases second.read member.2 <;> rfl
    · rw [readMember_of_other hfirst hsecond, readMember_of_other hsecond hfirst]
      rfl

/-! ## All members -/

theorem readMembers_cons (member : String × ν) (members : List (String × ν)) :
    readMembers first second start (member :: members) =
      (readMember first second start member).bind fun fields =>
        readMembers first second fields members :=
  List.foldlM_cons

theorem readMembers_of_first {value : ν} (h : first.read value = .error e) :
    readMembers first second start ((first.name, value) :: members) = .error e := by
  rw [readMembers_cons, readMember_of_first rfl, h]
  rfl

theorem readMembers_of_second (hname : first.name ≠ second.name) {value : ν}
    (h : second.read value = .error e) :
    readMembers first second start ((second.name, value) :: members) = .error e := by
  rw [readMembers_cons, readMember_of_second hname.symm rfl, h]
  rfl

/-- It does not matter which field is called the first one. -/
theorem readMembers_swap (h : first.name ≠ second.name) (members : List (String × ν)) :
    readMembers second first start.swap members =
      (readMembers first second start members).map Prod.swap := by
  induction members generalizing start with
  | nil => rfl
  | cons member members ih =>
    rw [readMembers_cons, readMembers_cons, readMember_swap h]
    cases readMember first second start member with
    | error e => rfl
    | ok fields => exact ih

/-- An error is that of a field that a member gives. -/
theorem of_readMembers_eq_error (h : readMembers first second start members = .error e) :
    (∃ value, (first.name, value) ∈ members ∧ first.read value = .error e) ∨
      ∃ value, (second.name, value) ∈ members ∧ second.read value = .error e := by
  induction members generalizing start with
  | nil => cases h
  | cons member members ih =>
    rw [readMembers_cons] at h
    cases hmember : readMember first second start member with
    | ok fields =>
      rw [hmember] at h
      rcases ih h with ⟨value, hm, hread⟩ | ⟨value, hm, hread⟩
      · exact Or.inl ⟨value, List.mem_cons_of_mem member hm, hread⟩
      · exact Or.inr ⟨value, List.mem_cons_of_mem member hm, hread⟩
    | error e' =>
      rw [hmember] at h
      cases h
      obtain ⟨key, value⟩ := member
      rcases of_readMember_eq_error hmember with ⟨rfl, hread⟩ | ⟨rfl, hread⟩
      · exact Or.inl ⟨value, List.mem_cons_self, hread⟩
      · exact Or.inr ⟨value, List.mem_cons_self, hread⟩

/-- Where no key stands twice, the first field has what its member gives, or else its default. -/
theorem of_readMembers_eq_ok (hnodup : (members.map Prod.fst).Nodup)
    (h : readMembers first second start members = .ok fields) :
    (∀ value, (first.name, value) ∈ members → first.read value = .ok fields.1) ∧
      (first.name ∉ members.map Prod.fst → fields.1 = start.1) := by
  induction members generalizing start with
  | nil =>
    cases h
    exact ⟨fun value hm => absurd hm List.not_mem_nil, fun _ => rfl⟩
  | cons member members ih =>
    obtain ⟨hnot, hrest⟩ := List.nodup_cons.mp hnodup
    rw [readMembers_cons] at h
    cases hmember : readMember first second start member with
    | error e => rw [hmember] at h; cases h
    | ok middle =>
      rw [hmember] at h
      obtain ⟨hread, hkept⟩ := ih hrest h
      obtain ⟨hgiven, hother⟩ := of_readMember_eq_ok hmember
      constructor
      · intro value hm
        rcases List.mem_cons.mp hm with rfl | hm
        · -- The members behind do not give the field again.
          rw [hkept hnot]
          exact hgiven rfl
        · exact hread value hm
      · intro habsent
        rw [List.map_cons, List.mem_cons, not_or] at habsent
        rw [hkept habsent.2, hother (Ne.symm habsent.1)]

section Both

variable (hname : first.name ≠ second.name) (hnodup : (members.map Prod.fst).Nodup) {a b : ν}
  (ha : (first.name, a) ∈ members) (hb : (second.name, b) ∈ members)
include hnodup ha hb

/-- Where both fields are given, an error is that of one of them. -/
theorem or_of_readMembers_eq_error (h : readMembers first second start members = .error e) :
    first.read a = .error e ∨ second.read b = .error e := by
  rcases of_readMembers_eq_error h with ⟨value, hm, hread⟩ | ⟨value, hm, hread⟩
  · exact Or.inl (Members.value_unique hnodup hm ha ▸ hread)
  · exact Or.inr (Members.value_unique hnodup hm hb ▸ hread)

include hname

/-- Where both fields are given, the record is read if both of them are. -/
theorem readMembers_eq_ok_iff :
    readMembers first second start members = .ok fields ↔
      first.read a = .ok fields.1 ∧ second.read b = .ok fields.2 := by
  constructor
  · intro h
    have hswap : readMembers second first start.swap members = .ok fields.swap := by
      rw [readMembers_swap hname, h]
      rfl
    exact ⟨(of_readMembers_eq_ok hnodup h).1 a ha, (of_readMembers_eq_ok hnodup hswap).1 b hb⟩
  · rintro ⟨hfirst, hsecond⟩
    cases h : readMembers first second start members with
    | error e =>
      rcases or_of_readMembers_eq_error hnodup ha hb h with he | he
      · rw [hfirst] at he; cases he
      · rw [hsecond] at he; cases he
    | ok fields' =>
      have hfirst' := (of_readMembers_eq_ok hnodup h).1 a ha
      have hswap : readMembers second first start.swap members = .ok fields'.swap := by
        rw [readMembers_swap hname, h]
        rfl
      have hsecond' := (of_readMembers_eq_ok hnodup hswap).1 b hb
      rw [hfirst] at hfirst'
      rw [hsecond] at hsecond'
      rw [Prod.ext (Except.ok.inj hfirst') (Except.ok.inj hsecond')]

end Both

end Field

end Stencil
