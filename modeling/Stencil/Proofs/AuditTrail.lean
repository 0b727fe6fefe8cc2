import Mathlib.Data.Finset.Basic
import Stencil.Proofs.Compilation
import Stencil.Proofs.StoreHistory

/-!
# The log of a store

What a store logs follows from what it answers: a write that succeeded leaves its trail, and all
else leaves none. So the ids that have an entry are found by going through the log and making each
change it tells of, and there is never a change that cannot be made.
-/

namespace Stencil

/-! ## The strings of a value -/

namespace Json

/-- The text of a string. -/
def string? : Json → Option String
  | .str text => some text
  | _ => none

/-- All strings in a value, in document order. -/
def strings (value : Json) : List String := value.tree.leaves.filterMap string?

/-- The leaves of a value that has a document are its strings. -/
theorem length_strings {value : Json} {doc : Document} (h : Document.ofJson value = .ok doc) :
    value.strings.length = value.tree.leaves.length := by
  rw [Document.ofJson, Document.ofJsonAt_eq_traverse,
    Tree.traverse_eq_report Document.gives_readLeaf] at h
  have hfails := List.findSome?_eq_none_iff.mp (report_eq_ok_iff.mp h).1
  rw [strings, List.filterMap_length_eq_length]
  intro content hm
  rw [Tree.leaves_eq_map_positions] at hm
  obtain ⟨⟨path, leaf⟩, hlisted, rfl⟩ := List.mem_map.mp hm
  have hread := hfails (path, leaf) hlisted
  cases leaf with
  | str text => rfl
  | _ => cases hread

end Json

namespace Template

variable {source : Json}

/-- A template has as many leaves as its source has strings, and logs their number. -/
theorem events_compileJson_of_ok {template : Template}
    (h : (compileJson source).value = .ok template) :
    (compileJson source).events = [.templateCompiled source.strings.length] := by
  have htemplate := (of_compileJson_eq_ok h).2.2
  cases hdoc : Document.ofJson source with
  | error e =>
    rw [compileJson, hdoc] at h
    cases h
  | ok doc =>
    have hcount : template.leafCount = source.strings.length := by
      rw [htemplate, Tree.leafCount, Json.template, Json.document, Tree.leaves_mapLeaves,
        Tree.leaves_mapLeaves, List.length_map, List.length_map, Json.length_strings hdoc]
    rw [compileJson, hdoc] at h ⊢
    simp only [compile] at h ⊢
    cases hleaves : ofDocument doc with
    | error e =>
      rw [hleaves] at h
      cases h
    | ok template' =>
      rw [hleaves] at h
      cases h
      rw [← hcount]
      rfl

/-- A source that has no template leaves nothing in the log. -/
theorem events_compileJson_of_error {e : TemplateError}
    (h : (compileJson source).value = .error e) : (compileJson source).events = [] := by
  rw [compileJson] at h ⊢
  cases hdoc : Document.ofJson source with
  | error e' => rfl
  | ok doc =>
    rw [hdoc] at h
    simp only [compile] at h ⊢
    cases hleaves : ofDocument doc with
    | error e' => rfl
    | ok template =>
      rw [hleaves] at h
      cases h

end Template

/-! ## What operations log -/

/-- The events of an operation that was answered: those of a write that succeeded. -/
def Operation.trail : Operation → Answer → List Event
  | .create _ id source, .entry (.ok _) =>
    [.templateCompiled source.strings.length, .templateCreated id]
  | .update _ id source, .entry (.ok _) =>
    [.templateCompiled source.strings.length, .templateUpdated id]
  | .delete id, .removed (.ok _) => [.templateDeleted id]
  | _, _ => []

namespace Store

theorem events_create (store : Store) (now : Time) (id : String) (source : Json) :
    (store.create now id source).events =
      (Operation.create now id source).trail
        (.entry (store.create now id source).value.result) := by
  unfold create
  cases TemplateId.validate id with
  | error e => rfl
  | ok _ =>
    simp only
    by_cases hc : store.contains id = true
    · rw [if_pos hc]
      rfl
    · rw [if_neg hc, Logged.events_bind, Logged.value_bind]
      cases hsource : (Template.compileJson source).value with
      | error e =>
        rw [Template.events_compileJson_of_error hsource]
        rfl
      | ok template =>
        rw [Template.events_compileJson_of_ok hsource]
        rfl

theorem events_update (store : Store) (now : Time) (id : String) (source : Json) :
    (store.update now id source).events =
      (Operation.update now id source).trail
        (.entry (store.update now id source).value.result) := by
  unfold update
  cases store.get? id with
  | none => rfl
  | some previous =>
    simp only
    rw [Logged.events_bind, Logged.value_bind]
    cases hsource : (Template.compileJson source).value with
    | error e =>
      rw [Template.events_compileJson_of_error hsource]
      rfl
    | ok template =>
      rw [Template.events_compileJson_of_ok hsource]
      rfl

theorem events_delete (store : Store) (id : String) :
    (store.delete id).events =
      (Operation.delete id).trail (.removed (store.delete id).value.result) := by
  unfold delete
  by_cases hc : store.contains id = true
  · rw [if_pos hc]
    rfl
  · rw [if_neg hc]
    rfl

/-- The events of an operation follow from its answer. -/
theorem events_perform (store : Store) (op : Operation) :
    (store.perform op).events = op.trail (store.perform op).value.1 := by
  cases op with
  | create now id source =>
    rw [perform, Logged.events_bind, Logged.events_pure, List.append_nil]
    exact store.events_create now id source
  | update now id source =>
    rw [perform, Logged.events_bind, Logged.events_pure, List.append_nil]
    exact store.events_update now id source
  | delete id =>
    rw [perform, Logged.events_bind, Logged.events_pure, List.append_nil]
    exact store.events_delete id
  | _ => rfl

end Store

/-! ## Going through the log -/

/-- The ids that have an entry after the change that an event tells of. There are none if the change
    cannot be made: an entry is made where there is one, changed or removed where there is none, or
    the event tells of something else. -/
def Event.replay? (ids : Finset String) : Event → Option (Finset String)
  | .templateCreated id => if id ∈ ids then none else some (insert id ids)
  | .templateUpdated id => if id ∈ ids then some ids else none
  | .templateDeleted id => if id ∈ ids then some (ids.erase id) else none
  | _ => none

/-- Goes through the events of level `info`. -/
def Event.replayInfo? (ids : Finset String) (events : List Event) : Option (Finset String) :=
  (events.filter fun event => event.level = .info).foldlM Event.replay? ids

namespace Store

variable {store : Store} {id other : String}

/-- The ids that have an entry. -/
def ids (store : Store) : Finset String := store.entries.keys.toFinset

theorem mem_ids : id ∈ store.ids ↔ store.contains id = true := by
  rw [ids, List.mem_toFinset]
  exact Members.contains_iff.symm

theorem ids_put (store : Store) (stored : StoredTemplate) :
    (store.put stored).ids = insert stored.id store.ids := by
  ext other
  rw [Finset.mem_insert, ids, ids, List.mem_toFinset, List.mem_toFinset]
  exact Members.mem_keys_insert

theorem ids_remove (store : Store) (id : String) : (store.remove id).ids = store.ids.erase id := by
  ext other
  rw [Finset.mem_erase, mem_ids, mem_ids, contains_iff, contains_iff]
  by_cases ho : other = id
  · simp [ho, get?_remove_self]
  · simp [ho, get?_remove_of_ne ho]

theorem Created.replayInfo? {now : Time} {source : Json} {change : Change StoredTemplate}
    (h : Created store now id source change) :
    Event.replayInfo? store.ids
      ((Operation.create now id source).trail (.entry change.result)) = some change.store.ids := by
  cases h with
  | done template _ hc _ =>
    have habsent : id ∉ store.ids := by simp [mem_ids, hc]
    show (if id ∈ store.ids then none else some (insert id store.ids)).bind some = _
    rw [if_neg habsent, ids_put]
    rfl
  | _ => rfl

theorem Updated.replayInfo? {now : Time} {source : Json} {change : Change StoredTemplate}
    (h : Updated store now id source change) :
    Event.replayInfo? store.ids
      ((Operation.update now id source).trail (.entry change.result)) = some change.store.ids := by
  cases h with
  | done previous template hget _ =>
    have hpresent : id ∈ store.ids := mem_ids.mpr (contains_iff.mpr ⟨previous, hget⟩)
    show (if id ∈ store.ids then some store.ids else none).bind some = _
    rw [if_pos hpresent, ids_put, Finset.insert_eq_of_mem hpresent]
    rfl
  | _ => rfl

theorem Deleted.replayInfo? {change : Change Unit} (h : Deleted store id change) :
    Event.replayInfo? store.ids ((Operation.delete id).trail (.removed change.result)) =
      some change.store.ids := by
  cases h with
  | notFound _ => rfl
  | done hc =>
    show (if id ∈ store.ids then some (store.ids.erase id) else none).bind some = _
    rw [if_pos (mem_ids.mpr hc), ids_remove]
    rfl

/-- The ids after an operation are found by going through its events. -/
theorem replayInfo?_perform (store : Store) (op : Operation) :
    Event.replayInfo? store.ids (store.perform op).events =
      some (store.perform op).value.2.ids := by
  rw [events_perform]
  cases op with
  | create now id source => exact (created_create store now id source).replayInfo?
  | update now id source => exact (updated_update store now id source).replayInfo?
  | delete id => exact (deleted_delete store id).replayInfo?
  | _ => rfl

/-! ## The log of a run -/

theorem run_cons (store : Store) (op : Operation) (ops : List Operation) :
    store.run (op :: ops) =
      ⟨((store.perform op).value.1 :: ((store.perform op).value.2.run ops).value.1,
          ((store.perform op).value.2.run ops).value.2),
        (store.perform op).events ++ ((store.perform op).value.2.run ops).events⟩ := by
  show Logged.mk _ _ = _
  simp

/-- Every operation of a run is answered. -/
theorem length_answers (store : Store) (ops : List Operation) :
    (store.run ops).value.1.length = ops.length := by
  induction ops generalizing store with
  | nil => rfl
  | cons op ops ih => rw [run_cons, List.length_cons, List.length_cons, ih]

/-- The log of a run is put together from the trails of its operations. -/
theorem events_run (store : Store) (ops : List Operation) :
    (store.run ops).events =
      (ops.zip (store.run ops).value.1).flatMap fun (op, answer) => op.trail answer := by
  induction ops generalizing store with
  | nil => rfl
  | cons op ops ih => rw [run_cons, List.zip_cons_cons, List.flatMap_cons, ← ih, events_perform]

/-- The ids after a run are found by going through its log. -/
theorem replayInfo?_run (store : Store) (ops : List Operation) :
    Event.replayInfo? store.ids (store.run ops).events = some (store.run ops).value.2.ids := by
  induction ops generalizing store with
  | nil => rfl
  | cons op ops ih =>
    have hperform := store.replayInfo?_perform op
    have hrest := ih (store.perform op).value.2
    rw [Event.replayInfo?] at hperform hrest ⊢
    rw [run_cons, List.filter_append, List.foldlM_append, hperform]
    exact hrest

/-- The log of a store that is new at first is its audit trail. A write that succeeded is logged
    with the number of strings in its source, and nothing else is. Each change that the log tells of
    could be made after the changes before it, and all of them together lead to the ids that have an
    entry. -/
theorem run_audited (ops : List Operation) :
    (empty.run ops).value.1.length = ops.length ∧
    (empty.run ops).events =
      ((ops.zip (empty.run ops).value.1).flatMap fun (op, answer) => op.trail answer) ∧
    (∃ ids, Event.replayInfo? ∅ (empty.run ops).events = some ids ∧
      ∀ id, id ∈ ids ↔ (empty.run ops).value.2.contains id = true) ∧
    (∀ (store : Store) (op : Operation),
      (store.perform op).events = op.trail (store.perform op).value.1) ∧
    (∀ leaves, (Event.templateCompiled leaves).shown =
      (.debug, "Template compiled", [("leaves", .num (.int leaves))])) ∧
    (∀ id, (Event.templateCreated id).shown =
      (.info, "Template created", [("template_id", .str id)])) ∧
    (∀ id, (Event.templateUpdated id).shown =
      (.info, "Template updated", [("template_id", .str id)])) ∧
    ∀ id, (Event.templateDeleted id).shown =
      (.info, "Template deleted", [("template_id", .str id)]) :=
  ⟨length_answers empty ops, events_run empty ops,
    ⟨_, replayInfo?_run empty ops, fun _ => mem_ids⟩, events_perform,
    fun _ => rfl, fun _ => rfl, fun _ => rfl, fun _ => rfl⟩

end Store

end Stencil
