import Stencil.Template.Store

/-!
# What a write does to the store

`Created`, `Updated` and `Deleted` list all that a write can come to, with the condition of each
outcome. A write that is refused leaves the store as it is, and one that succeeds touches no entry
but its own.
-/

namespace Stencil.Store

/-! ## Entries after a write -/

variable {store : Store} {stored : StoredTemplate} {id other : String}

theorem contains_iff : store.contains id = true ↔ ∃ stored, store.get? id = some stored := by
  rw [contains, Members.contains, Option.isSome_iff_exists, get?]

theorem contains_eq_false_iff : store.contains id = false ↔ store.get? id = none := by
  rw [contains, Members.contains, Option.isSome_eq_false_iff, Option.isNone_iff_eq_none, get?]

theorem get_eq_ok_iff : store.get id = .ok stored ↔ store.get? id = some stored := by
  rw [get]
  cases store.get? id <;> simp

theorem get?_put_self : (store.put stored).get? stored.id = some stored :=
  Members.lookup_insert_self store.entries

theorem get?_put_of_ne (h : other ≠ stored.id) : (store.put stored).get? other = store.get? other :=
  Members.lookup_insert_of_ne h store.entries

theorem get?_remove_self : (store.remove id).get? id = none :=
  Members.lookup_erase_self id store.entries

theorem get?_remove_of_ne (h : other ≠ id) : (store.remove id).get? other = store.get? other :=
  Members.lookup_erase_of_ne h store.entries

theorem size_put : (store.put stored).size =
    if store.contains stored.id then store.size else store.size + 1 :=
  Members.length_insert store.increasing

theorem size_remove (h : store.contains id = true) : (store.remove id).size + 1 = store.size :=
  Members.length_erase store.increasing h

theorem get_congr {before after : Store} (h : after.get? id = before.get? id) :
    after.get id = before.get id := by
  rw [get, get, h]

/-! ## The outcomes of a write -/

/-- What it comes to to make an entry. The first check that fails decides. -/
inductive Created (store : Store) (now : Time) (id : String) (source : Json) :
    Change StoredTemplate → Prop
  | invalidId (fault : IdFault) : TemplateId.validate id = .error (.invalidId fault) →
    Created store now id source (store.refuse (.invalidId fault))
  | alreadyExists : TemplateId.validate id = .ok () → store.contains id = true →
    Created store now id source (store.refuse (.alreadyExists id))
  | badSource (e : TemplateError) : TemplateId.validate id = .ok () → store.contains id = false →
    (Template.compileJson source).value = .error e → Created store now id source (store.refuse e)
  | done (template : Template) : TemplateId.validate id = .ok () → store.contains id = false →
    (Template.compileJson source).value = .ok template →
    Created store now id source
      ⟨.ok ⟨id, source, template, now, now⟩, store.put ⟨id, source, template, now, now⟩⟩

/-- What it comes to to replace the source of an entry. The id is not checked. -/
inductive Updated (store : Store) (now : Time) (id : String) (source : Json) :
    Change StoredTemplate → Prop
  | notFound : store.contains id = false →
    Updated store now id source (store.refuse (.notFound id))
  | badSource (e : TemplateError) : store.contains id = true →
    (Template.compileJson source).value = .error e → Updated store now id source (store.refuse e)
  | done (previous : StoredTemplate) (template : Template) : store.get? id = some previous →
    (Template.compileJson source).value = .ok template →
    Updated store now id source
      ⟨.ok ⟨id, source, template, previous.createdAt, now⟩,
        store.put ⟨id, source, template, previous.createdAt, now⟩⟩

/-- What it comes to to remove an entry. -/
inductive Deleted (store : Store) (id : String) : Change Unit → Prop
  | notFound : store.contains id = false → Deleted store id (store.refuse (.notFound id))
  | done : store.contains id = true → Deleted store id ⟨.ok (), store.remove id⟩

theorem validate_eq_error {e : TemplateError} (h : TemplateId.validate id = .error e) :
    ∃ fault, e = .invalidId fault := by
  unfold TemplateId.validate at h
  split at h
  · cases h
    exact ⟨.size, rfl⟩
  · split at h
    · cases h
    · cases h
      exact ⟨.character, rfl⟩

theorem created_create (store : Store) (now : Time) (id : String) (source : Json) :
    Created store now id source (store.create now id source).value := by
  unfold create
  cases hid : TemplateId.validate id with
  | error e =>
    obtain ⟨fault, rfl⟩ := validate_eq_error hid
    exact .invalidId fault hid
  | ok _ =>
    simp only
    by_cases hc : store.contains id = true
    · rw [if_pos hc]
      exact .alreadyExists hid hc
    · rw [if_neg hc, Logged.value_bind]
      have hc' : store.contains id = false := by simpa using hc
      cases hsource : (Template.compileJson source).value with
      | error e => exact .badSource e hid hc' hsource
      | ok template => exact .done template hid hc' hsource

theorem updated_update (store : Store) (now : Time) (id : String) (source : Json) :
    Updated store now id source (store.update now id source).value := by
  unfold update
  cases hget : store.get? id with
  | none => exact .notFound (contains_eq_false_iff.mpr hget)
  | some previous =>
    simp only
    rw [Logged.value_bind]
    cases hsource : (Template.compileJson source).value with
    | error e => exact .badSource e (contains_iff.mpr ⟨previous, hget⟩) hsource
    | ok template => exact .done previous template hget hsource

theorem deleted_delete (store : Store) (id : String) :
    Deleted store id (store.delete id).value := by
  unfold delete
  by_cases hc : store.contains id = true
  · rw [if_pos hc]
    exact .done hc
  · rw [if_neg hc]
    exact .notFound (by simpa using hc)

/-! ## All or nothing -/

/-- A write to the entry of `id` that fails has no effect, and one that succeeds leaves all other
    entries as they are and makes the store larger by `growth`. -/
structure AllOrNothing {α : Type} (store : Store) (id : String) (growth : Int)
    (change : Change α) : Prop where
  refused : ∀ e, change.result = .error e → change.store = store
  others : ∀ a, change.result = .ok a → ∀ other, other ≠ id →
    change.store.get other = store.get other
  size : ∀ a, change.result = .ok a → (change.store.size : Int) = store.size + growth

theorem allOrNothing_refuse {α : Type} (growth : Int) (e : TemplateError) :
    AllOrNothing store id growth (store.refuse e : Change α) where
  refused _ _ := rfl
  others _ h := nomatch h
  size _ h := nomatch h

theorem allOrNothing_put (store : Store) (stored : StoredTemplate) :
    AllOrNothing store stored.id (if store.contains stored.id then 0 else 1)
      ⟨.ok stored, store.put stored⟩ where
  refused _ h := nomatch h
  others _ _ _ hne := get_congr (get?_put_of_ne hne)
  size _ _ := by
    rw [size_put]
    split <;> simp

theorem allOrNothing_remove (h : store.contains id = true) :
    AllOrNothing store id (-1) (⟨.ok (), store.remove id⟩ : Change Unit) where
  refused _ h := nomatch h
  others _ _ _ hne := get_congr (get?_remove_of_ne hne)
  size _ _ := by
    have hsize := size_remove h
    simp only
    omega

/-- What to expect of making an entry: the checks in their order, and the entry. -/
structure CreateRules (store : Store) (id : String) (source : Json)
    (change : Change StoredTemplate) : Prop extends AllOrNothing store id 1 change where
  invalid_id : ∀ e, TemplateId.validate id = .error e →
    (∃ fault, e = .invalidId fault) ∧ change.result = .error e
  already_exists : TemplateId.validate id = .ok () → store.contains id = true →
    change.result = .error (.alreadyExists id)
  bad_source : TemplateId.validate id = .ok () → store.contains id = false →
    ∀ e, (Template.compileJson source).value = .error e → change.result = .error e
  created : TemplateId.validate id = .ok () → store.contains id = false →
    ∀ template, (Template.compileJson source).value = .ok template →
      ∃ stored, change.result = .ok stored ∧ change.store.get id = .ok stored ∧ stored.id = id ∧
        stored.source = source ∧ stored.compiled = template ∧ stored.createdAt = stored.updatedAt

/-- What to expect of replacing the source of an entry. -/
structure UpdateRules (store : Store) (id : String) (source : Json)
    (change : Change StoredTemplate) : Prop extends AllOrNothing store id 0 change where
  not_found : store.contains id = false → change.result = .error (.notFound id)
  bad_source : store.contains id = true →
    ∀ e, (Template.compileJson source).value = .error e → change.result = .error e
  updated : ∀ previous, store.get id = .ok previous →
    ∀ template, (Template.compileJson source).value = .ok template →
      ∃ stored, change.result = .ok stored ∧ change.store.get id = .ok stored ∧ stored.id = id ∧
        stored.source = source ∧ stored.compiled = template ∧
        stored.createdAt = previous.createdAt

/-- What to expect of removing an entry. -/
structure DeleteRules (store : Store) (id : String) (change : Change Unit) : Prop
    extends AllOrNothing store id (-1) change where
  not_found : store.contains id = false → change.result = .error (.notFound id)
  deleted_iff : change.result = .ok () ↔ store.contains id = true
  gone : change.result = .ok () → change.store.get id = .error (.notFound id)

theorem Created.rules {now : Time} {source : Json} {change : Change StoredTemplate}
    (h : Created store now id source change) : CreateRules store id source change := by
  cases h with
  | invalidId fault hid =>
    exact { allOrNothing_refuse 1 _ with
      invalid_id := fun e he =>
        have heq : .invalidId fault = e := Except.error.inj (hid.symm.trans he)
        ⟨⟨fault, heq.symm⟩, congrArg Except.error heq⟩
      already_exists := by simp [hid]
      bad_source := by simp [hid]
      created := by simp [hid] }
  | alreadyExists hid hc =>
    exact { allOrNothing_refuse 1 _ with
      invalid_id := by simp [hid]
      already_exists := fun _ _ => rfl
      bad_source := by simp [hc]
      created := by simp [hc] }
  | badSource e hid hc hsource =>
    exact { allOrNothing_refuse 1 _ with
      invalid_id := by simp [hid]
      already_exists := by simp [hc]
      bad_source := fun _ _ e' he =>
        have heq : e = e' := Except.error.inj (hsource.symm.trans he)
        congrArg Except.error heq
      created := by simp [hsource] }
  | done template hid hc hsource =>
    have hwrite := allOrNothing_put store ⟨id, source, template, now, now⟩
    simp only [hc, Bool.false_eq_true, if_false] at hwrite
    exact { hwrite with
      invalid_id := by simp [hid]
      already_exists := by simp [hc]
      bad_source := by simp [hsource]
      created := fun _ _ template' ht =>
        have heq : template = template' := Except.ok.inj (hsource.symm.trans ht)
        ⟨_, rfl, get_eq_ok_iff.mpr get?_put_self, rfl, rfl, heq, rfl⟩ }

theorem Updated.rules {now : Time} {source : Json} {change : Change StoredTemplate}
    (h : Updated store now id source change) : UpdateRules store id source change := by
  cases h with
  | notFound hc =>
    have hget := contains_eq_false_iff.mp hc
    exact { allOrNothing_refuse 0 _ with
      not_found := fun _ => rfl
      bad_source := by simp [hc]
      updated := by simp [get_eq_ok_iff, hget] }
  | badSource e hc hsource =>
    exact { allOrNothing_refuse 0 _ with
      not_found := by simp [hc]
      bad_source := fun _ e' he =>
        have heq : e = e' := Except.error.inj (hsource.symm.trans he)
        congrArg Except.error heq
      updated := by simp [hsource] }
  | done previous template hget hsource =>
    have hc : store.contains id = true := contains_iff.mpr ⟨previous, hget⟩
    have hwrite := allOrNothing_put store ⟨id, source, template, previous.createdAt, now⟩
    simp only [hc, if_true] at hwrite
    exact { hwrite with
      not_found := by simp [hc]
      bad_source := by simp [hsource]
      updated := fun previous' hget' template' ht =>
        have heq : template = template' := Except.ok.inj (hsource.symm.trans ht)
        have hprevious : previous = previous' :=
          Option.some.inj (hget.symm.trans (get_eq_ok_iff.mp hget'))
        ⟨_, rfl, get_eq_ok_iff.mpr get?_put_self, rfl, rfl, heq, by rw [hprevious]⟩ }

theorem Deleted.rules {change : Change Unit} (h : Deleted store id change) :
    DeleteRules store id change := by
  cases h with
  | notFound hc =>
    exact { allOrNothing_refuse (-1) _ with
      not_found := fun _ => rfl
      deleted_iff := by simp [refuse, hc]
      gone := by simp [refuse] }
  | done hc =>
    exact { allOrNothing_remove hc with
      not_found := by simp [hc]
      deleted_iff := by simp [hc]
      gone := fun _ => by simp only [get, get?_remove_self] }

/-- Every write checks in a fixed order, and all its checks come before it changes anything. -/
theorem writes_all_or_nothing (store : Store) (now : Time) (id : String) (source : Json) :
    CreateRules store id source (store.create now id source).value ∧
    UpdateRules store id source (store.update now id source).value ∧
    DeleteRules store id (store.delete id).value :=
  ⟨(created_create store now id source).rules, (updated_update store now id source).rules,
    (deleted_delete store id).rules⟩

end Stencil.Store
