import Stencil.Proofs.StoreWrites
import Stencil.Text.Split

/-!
# Which ids are accepted

An id is well formed if it has 1 to 64 characters, all of them alphanumeric, dashes or underscores.
`TemplateId.validate` measures an id in bytes, and not in characters. So it accepts all well formed
ids of ASCII characters, but of the others only those that fit into 64 bytes: 22 characters of three
bytes each are refused for their size.
-/

namespace Stencil

namespace TemplateId

/-- An id as the rule for ids has it: the number of characters counts, and not that of bytes. -/
structure WellFormed (id : String) : Prop where
  one_le_length : 1 ≤ id.length
  length_le : id.length ≤ 64
  character : ∀ c ∈ id.toList, Text.isAlphanumeric c = true ∨ c = '-' ∨ c = '_'

variable {id : String}

theorem isIdChar_iff {c : Char} :
    isIdChar c = true ↔ Text.isAlphanumeric c = true ∨ c = '-' ∨ c = '_' := by
  simp only [isIdChar, Bool.or_eq_true, decide_eq_true_eq, or_assoc]

/-- An id is accepted by its size in bytes and by its characters. -/
theorem validate_eq_ok_iff :
    validate id = .ok () ↔
      id ≠ "" ∧ id.utf8ByteSize ≤ maxSize ∧ ∀ c ∈ id.toList, isIdChar c = true := by
  unfold validate
  split
  · rename_i hsize
    rw [Bool.or_eq_true, String.isEmpty_iff, decide_eq_true_eq] at hsize
    refine iff_of_false nofun ?_
    rintro ⟨hne, hle, -⟩
    exact hsize.elim hne (Nat.not_lt.mpr hle)
  · rename_i hsize
    rw [Bool.or_eq_true, String.isEmpty_iff, decide_eq_true_eq, not_or, Nat.not_lt] at hsize
    split
    · rename_i hchars
      exact iff_of_true rfl ⟨hsize.1, hsize.2, List.all_eq_true.mp hchars⟩
    · rename_i hchars
      refine iff_of_false nofun ?_
      rintro ⟨-, -, hall⟩
      exact hchars (List.all_eq_true.mpr hall)

/-- The size is checked before the characters. -/
theorem validate_of_large (h : maxSize < id.utf8ByteSize) :
    validate id = .error (.invalidId .size) := by
  rw [validate, if_pos]
  rw [Bool.or_eq_true, decide_eq_true_eq]
  exact Or.inr h

theorem length_le_utf8ByteSize (id : String) : id.length ≤ id.utf8ByteSize := by
  rw [Text.utf8ByteSize_eq, ← String.length_toList]
  exact Text.length_le_byteSize id.toList

/-- An id that is accepted has no more characters than bytes, so it keeps the rule. -/
theorem validate_eq_ok_iff_wellFormed :
    validate id = .ok () ↔ WellFormed id ∧ id.utf8ByteSize ≤ maxSize := by
  have hempty : id ≠ "" ↔ 1 ≤ id.length := by
    rw [Nat.one_le_iff_ne_zero, ne_eq, ne_eq, String.length_eq_zero_iff]
  rw [validate_eq_ok_iff]
  simp only [isIdChar_iff]
  constructor
  · rintro ⟨hne, hsize, hchars⟩
    exact ⟨⟨hempty.mp hne, Nat.le_trans (length_le_utf8ByteSize id) hsize, hchars⟩, hsize⟩
  · rintro ⟨hid, hsize⟩
    exact ⟨hempty.mpr hid.one_le_length, hsize, hid.character⟩

/-- Where every character takes one byte, the check is the rule. -/
theorem validate_eq_ok_iff_of_narrow (h : ∀ c ∈ id.toList, c.utf8Size = 1) :
    validate id = .ok () ↔ WellFormed id := by
  have hsize : id.utf8ByteSize = id.length := by
    rw [Text.utf8ByteSize_eq, ← String.length_toList]
    exact Text.byteSize_of_narrow h
  rw [validate_eq_ok_iff_wellFormed, hsize]
  exact and_iff_left_of_imp WellFormed.length_le

end TemplateId

namespace Store

variable {store : Store} {now : Time} {id : String} {source : Json} {template : Template}

/-- Under an id without an entry, a source that compiles is refused for the id only. -/
theorem exists_created_iff (habsent : store.contains id = false)
    (hsource : (Template.compileJson source).value = .ok template) :
    (∃ stored, (store.create now id source).value.result = .ok stored) ↔
      TemplateId.validate id = .ok () := by
  have hrules := (created_create store now id source).rules
  constructor
  · intro hcreated
    obtain ⟨stored, hstored⟩ := hcreated
    cases hid : TemplateId.validate id with
    | error e =>
      rw [(hrules.invalid_id e hid).2] at hstored
      cases hstored
    | ok _ => rfl
  · intro hid
    obtain ⟨stored, hstored, -⟩ := hrules.created hid habsent template hsource
    exact ⟨stored, hstored⟩

end Store

namespace TemplateId

/-- An id is accepted if it is well formed and fits into 64 bytes, and an entry is made under an
    absent id under the same condition. An id that does not fit is refused for its size, also where
    it has no more than 64 characters. -/
theorem accepted_iff_wellFormed_and_fits (id : String) :
    (validate id = .ok () ↔ WellFormed id ∧ id.utf8ByteSize ≤ 64) ∧
    (64 < id.utf8ByteSize → validate id = .error (.invalidId .size)) ∧
    ∀ (store : Store) (now : Time) (source : Json) (template : Template),
      store.contains id = false → (Template.compileJson source).value = .ok template →
      ((∃ stored, (store.create now id source).value.result = .ok stored) ↔
        WellFormed id ∧ id.utf8ByteSize ≤ 64) := by
  refine ⟨validate_eq_ok_iff_wellFormed, validate_of_large, ?_⟩
  intro store now source template habsent hsource
  rw [Store.exists_created_iff habsent hsource]
  exact validate_eq_ok_iff_wellFormed

/-- An id of 22 characters of three bytes each. -/
def wideId : String := String.ofList (List.replicate 22 '日')

theorem wellFormed_wideId : WellFormed wideId := by
  unfold wideId
  have hlength : (String.ofList (List.replicate 22 '日')).length = 22 := by
    rw [String.length_ofList, List.length_replicate]
  refine ⟨by rw [hlength]; decide, by rw [hlength]; decide, fun c hc => Or.inl ?_⟩
  rw [String.toList_ofList] at hc
  rw [List.eq_of_mem_replicate hc]
  decide +kernel

theorem large_wideId : 64 < wideId.utf8ByteSize := by
  unfold wideId
  rw [Text.byteSize_ofList]
  decide

theorem validate_wideId :
    WellFormed wideId ∧ 64 < wideId.utf8ByteSize ∧
      validate wideId = .error (.invalidId .size) ∧
      ¬∃ stored, (Store.empty.create 0 wideId (.arr [])).value.result = .ok stored := by
  obtain ⟨-, hrefused, hcreated⟩ := accepted_iff_wellFormed_and_fits wideId
  refine ⟨wellFormed_wideId, large_wideId, hrefused large_wideId, ?_⟩
  rw [hcreated Store.empty 0 (.arr []) (.seq []) rfl rfl]
  exact fun hfits => absurd hfits.2 (Nat.not_le.mpr large_wideId)

/-- The check is not the rule. -/
theorem not_validate_iff_wellFormed : ¬(validate wideId = .ok () ↔ WellFormed wideId) := by
  intro hrule
  have haccepted := hrule.mpr wellFormed_wideId
  rw [validate_of_large large_wideId] at haccepted
  cases haccepted

end TemplateId

end Stencil
