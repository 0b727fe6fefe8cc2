import Mathlib.Data.Set.Card
import Stencil.Proofs.StoreWrites

/-!
# The history of a store

A run takes a new store through operations one after another. The writes among them that succeeded
are its history, and all that the store answers after the run follows from the history: which ids
have an entry, and from which writes the parts of an entry come.
-/

namespace Stencil

/-! ## Operations and runs -/

/-- Something that is asked of a store. A write comes with the reading of the clock. -/
inductive Operation where
  | create (now : Time) (id : String) (source : Json)
  | update (now : Time) (id : String) (source : Json)
  | delete (id : String)
  | get (id : String)
  | compiled (id : String)
  | list
  | contains (id : String)
  | count
  | render (id : String) (values : Json) (undefined : Undefined)

/-- What a store answers. -/
inductive Answer where
  | entry (result : Except TemplateError StoredTemplate)
  | removed (result : Except TemplateError Unit)
  | template (result : Except TemplateError Template)
  | entries (all : List StoredTemplate)
  | present (there : Bool)
  | number (n : Nat)
  | rendered (result : Except TemplateError Rendered)

/-- A write that succeeded. -/
inductive Write where
  | created (now : Time) (id : String) (source : Json)
  | updated (now : Time) (id : String) (source : Json)
  | deleted (id : String)

namespace Store

/-- Carries out one operation. -/
def perform (store : Store) : Operation → Logged (Answer × Store)
  | .create now id source => do
    let change ← store.create now id source
    return (.entry change.result, change.store)
  | .update now id source => do
    let change ← store.update now id source
    return (.entry change.result, change.store)
  | .delete id => do
    let change ← store.delete id
    return (.removed change.result, change.store)
  | .get id => return (.entry (store.get id), store)
  | .compiled id => return (.template (store.compiled id), store)
  | .list => return (.entries store.toList, store)
  | .contains id => return (.present (store.contains id), store)
  | .count => return (.number store.size, store)
  | .render id values undefined => return (.rendered (store.render id values undefined), store)

/-- Carries out operations one after another. -/
def run (store : Store) : List Operation → Logged (List Answer × Store)
  | [] => return ([], store)
  | op :: ops => do
    let (answer, next) ← store.perform op
    let (answers, last) ← next.run ops
    return (answer :: answers, last)

end Store

/-- The write that an operation is, if it is one and was answered with success. -/
def Operation.write? : Operation → Answer → Option Write
  | .create now id source, .entry (.ok _) => some (.created now id source)
  | .update now id source, .entry (.ok _) => some (.updated now id source)
  | .delete id, .removed (.ok _) => some (.deleted id)
  | _, _ => none

namespace Write

/-- The writes that succeeded, from the operations and their answers. -/
def history (ops : List Operation) (answers : List Answer) : List Write :=
  (ops.zip answers).filterMap fun (op, answer) => op.write? answer

/-- The id of the entry that was written. -/
def id : Write → String
  | .created _ id _ | .updated _ id _ | .deleted id => id

/-- The reading of the clock that went into the entry. -/
def time? : Write → Option Time
  | .created now _ _ | .updated now _ _ => some now
  | .deleted _ => none

/-- The write made the entry of `id`. -/
def Creates (id : String) (w : Write) : Prop := ∃ now source, w = .created now id source

/-- The write gave the entry of `id` a source. -/
def Sets (id : String) (now : Time) (source : Json) (w : Write) : Prop :=
  w = .created now id source ∨ w = .updated now id source

/-- The write gave the entry of `id` some source. -/
def SetsSource (id : String) (w : Write) : Prop := ∃ now source, w.Sets id now source

/-- Some write made the entry of `id`, and none after it removed the entry. -/
def Live (past : List Write) (id : String) : Prop :=
  ∃ before w after, past = before ++ w :: after ∧ w.Creates id ∧ .deleted id ∉ after

/-- The last write with a property. -/
def Last (P : Write → Prop) (past : List Write) (w : Write) : Prop :=
  ∃ before after, past = before ++ w :: after ∧ P w ∧ ∀ v ∈ after, ¬P v

end Write

/-- The parts of the entry of an id come from the last writes to it. -/
structure StoredTemplate.FromHistory (past : List Write) (id : String) (stored : StoredTemplate) :
    Prop where
  id_eq : stored.id = id
  id_valid : TemplateId.validate id = .ok ()
  created : ∃ source, Write.Last (Write.Creates id) past (.created stored.createdAt id source)
  updated : ∃ w, Write.Last (Write.SetsSource id) past w ∧ w.Sets id stored.updatedAt stored.source
  compiled : (Template.compileJson stored.source).value = .ok stored.compiled

/-! ## Writes at the end of a history -/

namespace Write

variable {P : Write → Prop} {past : List Write} {v w : Write} {other : String}

theorem history_cons (op : Operation) (ops : List Operation) (answer : Answer)
    (answers : List Answer) :
    history (op :: ops) (answer :: answers) =
      (op.write? answer).toList ++ history ops answers := by
  simp only [history, List.zip_cons_cons, List.filterMap_cons]
  cases op.write? answer <;> rfl

theorem last_concat (h : P w) : Last P (past ++ [w]) w :=
  ⟨past, [], rfl, h, fun _ hm => by cases hm⟩

theorem Last.concat (h : Last P past v) (hw : ¬P w) : Last P (past ++ [w]) v := by
  obtain ⟨before, after, rfl, hv, hafter⟩ := h
  refine ⟨before, after ++ [w], by simp, hv, ?_⟩
  intro u hu
  rcases List.mem_append.mp hu with hu | hu
  · exact hafter u hu
  · rw [List.mem_singleton.mp hu]
    exact hw

theorem Last.mem (h : Last P past v) : v ∈ past := by
  obtain ⟨before, after, rfl, -, -⟩ := h
  simp

theorem Creates.id_eq (h : w.Creates other) : w.id = other := by
  obtain ⟨now, source, rfl⟩ := h
  rfl

theorem SetsSource.id_eq (h : w.SetsSource other) : w.id = other := by
  obtain ⟨now, source, rfl | rfl⟩ := h
  · rfl
  · rfl

theorem Creates.setsSource (h : w.Creates other) : w.SetsSource other := by
  obtain ⟨now, source, rfl⟩ := h
  exact ⟨now, source, Or.inl rfl⟩

/-- A write decides about its own entry only. -/
theorem live_concat_iff :
    Live (past ++ [w]) other ↔ w.Creates other ∨ (Live past other ∧ w ≠ .deleted other) := by
  constructor
  · rintro ⟨before, u, after, hpast, hu, hafter⟩
    rcases List.eq_nil_or_concat after with rfl | ⟨after, x, rfl⟩
    · obtain ⟨-, hx⟩ := List.append_inj' hpast rfl
      simp only [List.cons.injEq, and_true] at hx
      exact Or.inl (hx ▸ hu)
    · have hpast' : past ++ [w] = (before ++ u :: after) ++ [x] := by simpa using hpast
      obtain ⟨rfl, hx⟩ := List.append_inj' hpast' rfl
      simp only [List.cons.injEq, and_true] at hx
      subst hx
      simp only [List.concat_eq_append, List.mem_append, List.mem_singleton, not_or] at hafter
      exact Or.inr ⟨⟨before, u, after, rfl, hu, hafter.1⟩, fun h => hafter.2 h.symm⟩
  · rintro (h | ⟨⟨before, u, after, rfl, hu, hafter⟩, hw⟩)
    · exact ⟨past, w, [], rfl, h, by simp⟩
    · refine ⟨before, u, after ++ [w], by simp, hu, ?_⟩
      simp only [List.mem_append, List.mem_singleton, not_or]
      exact ⟨hafter, fun h => hw h.symm⟩

theorem live_concat_of_ne (h : w.id ≠ other) : Live (past ++ [w]) other ↔ Live past other := by
  rw [live_concat_iff]
  constructor
  · rintro (hc | ⟨hlive, -⟩)
    · exact absurd hc.id_eq h
    · exact hlive
  · intro hlive
    refine Or.inr ⟨hlive, ?_⟩
    rintro rfl
    exact h rfl

end Write

/-! ## What a history says about a store -/

/-- The history says which ids have an entry, and what is in it. -/
structure Explains (past : List Write) (store : Store) : Prop where
  live_iff : ∀ id, Write.Live past id ↔ store.contains id = true
  entry : ∀ id stored, store.get? id = some stored → stored.FromHistory past id

theorem explains_empty : Explains [] Store.empty where
  live_iff id := by
    constructor
    · intro hlive
      obtain ⟨before, w, after, hpast, -, -⟩ := hlive
      simp at hpast
    · intro h
      cases h
  entry _ _ h := by cases h

namespace StoredTemplate.FromHistory

variable {past : List Write} {w : Write} {id : String} {stored : StoredTemplate}

/-- A write to another entry leaves open nothing about this one. -/
theorem concat (h : stored.FromHistory past id) (hw : w.id ≠ id) :
    stored.FromHistory (past ++ [w]) id := by
  obtain ⟨source, hcreated⟩ := h.created
  obtain ⟨v, hv, hsets⟩ := h.updated
  exact { h with
    created := ⟨source, hcreated.concat fun hc => hw hc.id_eq⟩
    updated := ⟨v, hv.concat fun hs => hw hs.id_eq, hsets⟩ }

/-- If the clock never goes back, an entry was not changed before it was made. -/
theorem createdAt_le (h : stored.FromHistory past id)
    (htimes : (past.filterMap Write.time?).Pairwise (· ≤ ·)) :
    stored.createdAt ≤ stored.updatedAt := by
  obtain ⟨source, hcreated⟩ := h.created
  obtain ⟨w, ⟨before, after, rfl, -, hafter⟩, hsets⟩ := h.updated
  have htime : w.time? = some stored.updatedAt := by
    rcases hsets with rfl | rfl <;> rfl
  rcases List.mem_append.mp hcreated.mem with hm | hm
  · rw [List.filterMap_append, List.filterMap_cons_some htime] at htimes
    have hcross := (List.pairwise_append.mp htimes).2.2
    exact hcross _ (List.mem_filterMap.mpr ⟨_, hm, rfl⟩) _ List.mem_cons_self
  · rcases List.mem_cons.mp hm with heq | hm
    · rw [← heq] at htime
      exact Nat.le_of_eq (Option.some.inj htime)
    · exact absurd ⟨_, _, Or.inl rfl⟩ (hafter _ hm)

end StoredTemplate.FromHistory

namespace Explains

variable {past : List Write} {store : Store}

/-- An entry put under an id decides about this id, and a write to it about no other. -/
theorem put (h : Explains past store) {w : Write} {stored : StoredTemplate}
    (hw : w.id = stored.id) (hlive : Write.Live (past ++ [w]) stored.id)
    (hstored : stored.FromHistory (past ++ [w]) stored.id) :
    Explains (past ++ [w]) (store.put stored) where
  live_iff other := by
    rw [Store.contains_iff]
    by_cases ho : other = stored.id
    · rw [ho, Store.get?_put_self]
      exact iff_of_true hlive ⟨stored, rfl⟩
    · rw [Store.get?_put_of_ne ho, ← Store.contains_iff, ← h.live_iff]
      exact Write.live_concat_of_ne fun heq => ho (heq.symm.trans hw)
  entry other found hget := by
    by_cases ho : other = stored.id
    · rw [ho, Store.get?_put_self] at hget
      cases hget
      rw [ho]
      exact hstored
    · rw [Store.get?_put_of_ne ho] at hget
      exact (h.entry other found hget).concat fun heq => ho (heq.symm.trans hw)

theorem created (h : Explains past store) {now : Time} {id : String} {source : Json}
    {template : Template} (hid : TemplateId.validate id = .ok ())
    (hsource : (Template.compileJson source).value = .ok template) :
    Explains (past ++ [.created now id source]) (store.put ⟨id, source, template, now, now⟩) := by
  have hcreates : (Write.created now id source).Creates id := ⟨now, source, rfl⟩
  exact h.put rfl (Write.live_concat_iff.mpr (Or.inl hcreates)) {
    id_eq := rfl
    id_valid := hid
    created := ⟨source, Write.last_concat hcreates⟩
    updated := ⟨_, Write.last_concat hcreates.setsSource, Or.inl rfl⟩
    compiled := hsource }

/-- A changed entry keeps what it has from the write that made it. -/
theorem updated (h : Explains past store) {now : Time} {id : String} {source : Json}
    {template : Template} {previous : StoredTemplate} (hget : store.get? id = some previous)
    (hsource : (Template.compileJson source).value = .ok template) :
    Explains (past ++ [.updated now id source])
      (store.put ⟨id, source, template, previous.createdAt, now⟩) := by
  have hprevious := h.entry id previous hget
  obtain ⟨source', hcreated⟩ := hprevious.created
  have hlive : Write.Live past id := (h.live_iff id).mpr (Store.contains_iff.mpr ⟨_, hget⟩)
  have hsets : (Write.updated now id source).SetsSource id := ⟨now, source, Or.inr rfl⟩
  exact h.put rfl (Write.live_concat_iff.mpr (Or.inr ⟨hlive, nofun⟩)) {
    id_eq := rfl
    id_valid := hprevious.id_valid
    created := ⟨source', hcreated.concat fun hc => by obtain ⟨_, _, hc⟩ := hc; cases hc⟩
    updated := ⟨_, Write.last_concat hsets, Or.inr rfl⟩
    compiled := hsource }

theorem deleted (h : Explains past store) (id : String) :
    Explains (past ++ [.deleted id]) (store.remove id) where
  live_iff other := by
    by_cases ho : other = id
    · rw [ho, Write.live_concat_iff, Store.contains_iff, Store.get?_remove_self]
      constructor
      · rintro (⟨_, _, hc⟩ | ⟨-, hne⟩)
        · cases hc
        · exact absurd rfl hne
      · rintro ⟨_, hget⟩
        cases hget
    · rw [Write.live_concat_of_ne fun heq => ho heq.symm, h.live_iff, Store.contains_iff,
        Store.contains_iff, Store.get?_remove_of_ne ho]
  entry other stored hget := by
    by_cases ho : other = id
    · rw [ho, Store.get?_remove_self] at hget
      cases hget
    · rw [Store.get?_remove_of_ne ho] at hget
      exact (h.entry other stored hget).concat fun heq => ho heq.symm

/-- What a refused write adds to the history: nothing. -/
theorem refused (h : Explains past store) : Explains (past ++ []) store := by
  rwa [List.append_nil]

theorem of_created (h : Explains past store) {now : Time} {id : String} {source : Json}
    {change : Store.Change StoredTemplate} (hc : Store.Created store now id source change) :
    Explains (past ++ ((Operation.create now id source).write? (.entry change.result)).toList)
      change.store := by
  cases hc with
  | invalidId _ _ => exact h.refused
  | alreadyExists _ _ => exact h.refused
  | badSource _ _ _ _ => exact h.refused
  | done template hid _ hsource => exact h.created hid hsource

theorem of_updated (h : Explains past store) {now : Time} {id : String} {source : Json}
    {change : Store.Change StoredTemplate} (hc : Store.Updated store now id source change) :
    Explains (past ++ ((Operation.update now id source).write? (.entry change.result)).toList)
      change.store := by
  cases hc with
  | notFound _ => exact h.refused
  | badSource _ _ _ => exact h.refused
  | done previous template hget hsource => exact h.updated hget hsource

theorem of_deleted (h : Explains past store) {id : String} {change : Store.Change Unit}
    (hc : Store.Deleted store id change) :
    Explains (past ++ ((Operation.delete id).write? (.removed change.result)).toList)
      change.store := by
  cases hc with
  | notFound _ => exact h.refused
  | done _ => exact h.deleted id

/-- One operation adds to the history what it did to the store. -/
theorem perform (h : Explains past store) (op : Operation) :
    Explains (past ++ (op.write? (store.perform op).value.1).toList)
      (store.perform op).value.2 := by
  cases op with
  | create now id source => exact h.of_created (Store.created_create store now id source)
  | update now id source => exact h.of_updated (Store.updated_update store now id source)
  | delete id => exact h.of_deleted (Store.deleted_delete store id)
  | _ => exact h.refused

/-- After a run the history explains the store if it did so before. -/
theorem run (h : Explains past store) (ops : List Operation) :
    Explains (past ++ Write.history ops (store.run ops).value.1) (store.run ops).value.2 := by
  induction ops generalizing past store with
  | nil => exact h.refused
  | cons op ops ih =>
    have hnext := ih (h.perform op)
    rw [List.append_assoc] at hnext
    have hrun : (store.run (op :: ops)).value.1 =
        (store.perform op).value.1 :: ((store.perform op).value.2.run ops).value.1 := rfl
    rw [hrun, Write.history_cons]
    exact hnext

end Explains

/-! ## What a store answers after a run -/

namespace Store

variable {past : List Write} {store : Store}

/-- All that a store answers is said by its history. -/
structure Recounts (past : List Write) (store : Store) : Prop where
  contains_iff : ∀ id, store.contains id = true ↔ Write.Live past id
  entry : ∀ id, Write.Live past id → ∃ stored, store.get id = .ok stored ∧
    stored.FromHistory past id ∧ store.compiled id = .ok stored.compiled
  size : {id | Write.Live past id}.encard = store.size
  mem_toList : ∀ stored, stored ∈ store.toList ↔ store.get stored.id = .ok stored
  nodup : (store.toList.map StoredTemplate.id).Nodup
  render_absent : ∀ id values undefined, ¬Write.Live past id →
    store.render id values undefined = .error (.notFound id)
  render_no_object : ∀ id values undefined, Write.Live past id →
    (∀ members, values ≠ .obj members) →
    store.render id values undefined = .error (.invalidBindings values.kind)
  render : ∀ id members undefined stored, store.get id = .ok stored →
    ∃ template, (Template.compileJson stored.source).value = .ok template ∧
      store.render id (.obj members) undefined = template.renderWith members undefined
  times : (past.filterMap Write.time?).Pairwise (· ≤ ·) → ∀ id stored,
    store.get id = .ok stored → stored.createdAt ≤ stored.updatedAt

theorem mem_toList_iff {stored : StoredTemplate} :
    stored ∈ store.toList ↔ ∃ id, store.get? id = some stored := by
  rw [toList, List.mem_map]
  constructor
  · rintro ⟨⟨id, stored⟩, hm, rfl⟩
    exact ⟨id, (Members.mem_iff_lookup store.increasing).mp hm⟩
  · rintro ⟨id, hget⟩
    exact ⟨(id, stored), (Members.mem_iff_lookup store.increasing).mpr hget, rfl⟩

theorem nodup_keys (store : Store) : store.entries.keys.Nodup :=
  Members.nodup_of_increasing store.increasing

/-- The entries are listed under their ids. -/
theorem toList_ids (h : Explains past store) :
    store.toList.map StoredTemplate.id = store.entries.keys := by
  rw [toList, List.map_map, Members.keys]
  apply List.map_congr_left
  rintro ⟨id, stored⟩ hm
  exact (h.entry id stored ((Members.mem_iff_lookup store.increasing).mp hm)).id_eq

theorem encard_contains (store : Store) : {id | store.contains id = true}.encard = store.size := by
  have hset : {id | store.contains id = true} = (store.entries.keys.toFinset : Set String) := by
    ext id
    rw [Set.mem_ofPred_eq, List.coe_toFinset, Set.mem_ofPred_eq]
    exact Members.contains_iff
  rw [hset, Set.encard_coe_eq_coe_finsetCard, List.toFinset_card_of_nodup store.nodup_keys,
    Members.keys, List.length_map, size]

theorem render_eq {id : String} {stored : StoredTemplate} (h : store.get id = .ok stored)
    (values : Json) (undefined : Undefined) :
    store.render id values undefined =
      (Bindings.ofJson values).bind fun bindings => stored.compiled.renderWith bindings undefined := by
  rw [render, compiled, h]
  rfl

theorem recounts_of_explains (h : Explains past store) : Recounts past store where
  contains_iff id := (h.live_iff id).symm
  entry id hlive := by
    obtain ⟨stored, hget⟩ := contains_iff.mp ((h.live_iff id).mp hlive)
    have hok := get_eq_ok_iff.mpr hget
    refine ⟨stored, hok, h.entry id stored hget, ?_⟩
    rw [compiled, hok]
    rfl
  size := by
    simp only [h.live_iff]
    exact encard_contains store
  mem_toList stored := by
    rw [mem_toList_iff, get_eq_ok_iff]
    constructor
    · rintro ⟨id, hget⟩
      rw [(h.entry id stored hget).id_eq]
      exact hget
    · exact fun hget => ⟨stored.id, hget⟩
  nodup := by
    rw [toList_ids h]
    exact store.nodup_keys
  render_absent id values undefined hlive := by
    rw [h.live_iff, Bool.not_eq_true, contains_eq_false_iff] at hlive
    rw [render, compiled, get, hlive]
    rfl
  render_no_object id values undefined hlive hvalues := by
    obtain ⟨stored, hget⟩ := contains_iff.mp ((h.live_iff id).mp hlive)
    rw [render_eq (get_eq_ok_iff.mpr hget)]
    cases values with
    | obj members => exact absurd rfl (hvalues members)
    | _ => rfl
  render id members undefined stored hget :=
    ⟨stored.compiled, (h.entry id stored (get_eq_ok_iff.mp hget)).compiled, render_eq hget _ _⟩
  times htimes id stored hget := (h.entry id stored (get_eq_ok_iff.mp hget)).createdAt_le htimes

/-- After any operations from a new store on, all that the store answers is said by the history of
    the writes that succeeded. -/
theorem run_recounts_history (ops : List Operation) :
    Recounts (Write.history ops (empty.run ops).value.1) (empty.run ops).value.2 :=
  recounts_of_explains (explains_empty.run ops)

end Store

end Stencil
