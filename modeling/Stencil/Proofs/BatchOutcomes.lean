import Stencil.Template.Batch

/-!
# What becomes of the records of a batch

A batch sorts the outcomes of its records into two lists. Each outcome is in one of them, under the
position of its record, and both are in the order of the records. The log has the failures in this
order too, and then the two counts.
-/

namespace Stencil

namespace Batch

variable {α β : Type}

/-- An outcome that is a document, with the position in front. -/
def rendered? : Except TemplateError Rendered × Nat → Option (Nat × Rendered)
  | (.ok doc, i) => some (i, doc)
  | (.error _, _) => none

/-- An outcome that is a failure, with the position in front. -/
def failed? : Except TemplateError Rendered × Nat → Option (Nat × TemplateError)
  | (.ok _, _) => none
  | (.error e, i) => some (i, e)

/-- The batch with the given outcomes, of which the first is at position `index`. -/
def ofOutcomes (index : Nat) (outcomes : List (Except TemplateError Rendered)) : Batch :=
  ⟨(outcomes.zipIdx index).filterMap rendered?, (outcomes.zipIdx index).filterMap failed?⟩

/-- A batch that has each outcome once, in the list it belongs to, and both lists in the order of
    the positions. -/
structure Sorts (outcomes : List (Except TemplateError Rendered)) (batch : Batch) : Prop where
  mem_rendered : ∀ i doc, (i, doc) ∈ batch.rendered ↔ outcomes[i]? = some (.ok doc)
  mem_failures : ∀ i e, (i, e) ∈ batch.failures ↔ outcomes[i]? = some (.error e)
  rendered_increasing : (batch.rendered.map Prod.fst).Pairwise (· < ·)
  failures_increasing : (batch.failures.map Prod.fst).Pairwise (· < ·)
  one_list : ∀ i < outcomes.length,
    (i ∈ batch.rendered.map Prod.fst ↔ i ∉ batch.failures.map Prod.fst)
  counts : batch.renderedCount + batch.failedCount = outcomes.length
  isComplete_iff : batch.isComplete = true ↔ ∀ outcome ∈ outcomes, ∃ doc, outcome = .ok doc

/-- What the log shows of a batch: a warning for each failure, and then the two counts. -/
def log (batch : Batch) : List (Level × String × List (String × Json)) :=
  (batch.failures.map fun failure =>
    (.warn, "Failed to render record",
      [("index", .num (.int failure.1)), ("error", .str failure.2.message)])) ++
  [(.debug, "Batch render finished",
    [("rendered", .num (.int batch.renderedCount)), ("failed", .num (.int batch.failedCount))])]

theorem rendered?_eq_some_iff {outcome : Except TemplateError Rendered × Nat} {i : Nat}
    {doc : Rendered} : rendered? outcome = some (i, doc) ↔ outcome = (.ok doc, i) := by
  obtain ⟨result, j⟩ := outcome
  cases result with
  | ok doc' => simp [rendered?, and_comm]
  | error e => simp [rendered?]

theorem failed?_eq_some_iff {outcome : Except TemplateError Rendered × Nat} {i : Nat}
    {e : TemplateError} : failed? outcome = some (i, e) ↔ outcome = (.error e, i) := by
  obtain ⟨result, j⟩ := outcome
  cases result with
  | ok doc => simp [failed?]
  | error e' => simp [failed?, and_comm]

/-- What is picked from a list with positions, and keeps them, is in their order. -/
theorem pairwise_filterMap_zipIdx {pick : α × Nat → Option (Nat × β)}
    (h : ∀ x y, pick x = some y → y.1 = x.2) (xs : List α) (index : Nat) :
    (((xs.zipIdx index).filterMap pick).map Prod.fst).Pairwise (· < ·) := by
  have hpositions : (xs.zipIdx index).Pairwise fun x y => x.2 < y.2 := by
    rw [← List.pairwise_map (f := Prod.snd), List.zipIdx_map_snd]
    exact List.pairwise_lt_range'
  rw [List.pairwise_map, List.pairwise_filterMap]
  refine hpositions.imp fun {x y} hxy x' hx y' hy => ?_
  rw [h x x' hx, h y y' hy]
  exact hxy

theorem mem_rendered_ofOutcomes {outcomes : List (Except TemplateError Rendered)} {i : Nat}
    {doc : Rendered} : (i, doc) ∈ (ofOutcomes 0 outcomes).rendered ↔
      outcomes[i]? = some (.ok doc) := by
  simp only [ofOutcomes, List.mem_filterMap, rendered?_eq_some_iff, exists_eq_right,
    List.mk_mem_zipIdx_iff_getElem?]

theorem mem_failures_ofOutcomes {outcomes : List (Except TemplateError Rendered)} {i : Nat}
    {e : TemplateError} : (i, e) ∈ (ofOutcomes 0 outcomes).failures ↔
      outcomes[i]? = some (.error e) := by
  simp only [ofOutcomes, List.mem_filterMap, failed?_eq_some_iff, exists_eq_right,
    List.mk_mem_zipIdx_iff_getElem?]

theorem counts_ofOutcomes (index : Nat) (outcomes : List (Except TemplateError Rendered)) :
    (ofOutcomes index outcomes).renderedCount + (ofOutcomes index outcomes).failedCount =
      outcomes.length := by
  induction outcomes generalizing index with
  | nil => rfl
  | cons outcome outcomes ih =>
    have hrest := ih (index + 1)
    simp only [renderedCount, failedCount, ofOutcomes, List.zipIdx_cons] at hrest ⊢
    cases outcome with
    | ok doc =>
      simp only [List.filterMap_cons, rendered?, failed?, List.length_cons]
      omega
    | error e =>
      simp only [List.filterMap_cons, rendered?, failed?, List.length_cons]
      omega

theorem sorts_ofOutcomes (outcomes : List (Except TemplateError Rendered)) :
    (ofOutcomes 0 outcomes).Sorts outcomes where
  mem_rendered _ _ := mem_rendered_ofOutcomes
  mem_failures _ _ := mem_failures_ofOutcomes
  rendered_increasing :=
    pairwise_filterMap_zipIdx (fun _ _ h => by rw [rendered?_eq_some_iff.mp h]) outcomes 0
  failures_increasing :=
    pairwise_filterMap_zipIdx (fun _ _ h => by rw [failed?_eq_some_iff.mp h]) outcomes 0
  one_list i hi := by
    simp only [List.mem_map, Prod.exists, exists_and_right, exists_eq_right,
      mem_rendered_ofOutcomes, mem_failures_ofOutcomes, List.getElem?_eq_getElem hi]
    cases outcomes[i] <;> simp
  counts := counts_ofOutcomes 0 outcomes
  isComplete_iff := by
    rw [isComplete, List.isEmpty_iff, List.eq_nil_iff_forall_not_mem]
    constructor
    · intro hnone outcome hm
      obtain ⟨i, hi⟩ := List.mem_iff_getElem?.mp hm
      cases outcome with
      | ok doc => exact ⟨doc, rfl⟩
      | error e => exact absurd (mem_failures_ofOutcomes.mpr hi) (hnone (i, e))
    · rintro hall ⟨i, e⟩ hfailed
      have hi := mem_failures_ofOutcomes.mp hfailed
      obtain ⟨doc, hdoc⟩ := hall _ (List.mem_of_getElem? hi)
      cases hdoc

end Batch

namespace Template

/-- What becomes of each record by itself: its bindings, rendered under the policy. -/
def outcomes (template : Template) (records : List Json) (undefined : Undefined) :
    List (Except TemplateError Rendered) :=
  records.map fun record =>
    (Bindings.ofJson record).bind fun bindings => template.renderWith bindings undefined

theorem outcomes_cons (template : Template) (record : Json) (records : List Json)
    (undefined : Undefined) :
    template.outcomes (record :: records) undefined =
      template.renderRecord undefined record :: template.outcomes records undefined := rfl

variable (template : Template) (records : List Json) (undefined : Undefined)

/-- The records from a position on give the batch of their outcomes, whatever came before them. -/
theorem value_renderRecords (index : Nat) :
    (template.renderRecords undefined index records).value =
      .ofOutcomes index (template.outcomes records undefined) := by
  induction records generalizing index with
  | nil => rfl
  | cons record records ih =>
    rw [renderRecords, outcomes_cons]
    cases template.renderRecord undefined record with
    | ok doc =>
      simp only [Logged.value_bind, Logged.value_pure, ih]
      rfl
    | error e =>
      simp only [Logged.value_bind, Logged.value_pure, ih]
      rfl

/-- Failures are logged in their order, and nothing else is. -/
theorem events_renderRecords (index : Nat) :
    (template.renderRecords undefined index records).events =
      (template.renderRecords undefined index records).value.failures.map fun failure =>
        .recordFailed failure.1 failure.2 := by
  induction records generalizing index with
  | nil => rfl
  | cons record records ih =>
    rw [renderRecords]
    cases template.renderRecord undefined record with
    | ok doc =>
      simp only [Logged.events_bind, Logged.value_bind, Logged.events_pure, Logged.value_pure, ih,
        List.append_nil]
    | error e =>
      simp only [Logged.events_bind, Logged.value_bind, Logged.events_pure, Logged.value_pure, ih,
        Logged.events_tell, List.append_nil, List.map_cons, List.singleton_append]

/-- A batch sorts the outcomes of its records. It logs a warning for each failure, in their order,
    and then the two counts. -/
theorem renderBatch_sorts :
    (template.renderBatch records undefined).value.Sorts (template.outcomes records undefined) ∧
    (template.renderBatch records undefined).events.map Event.shown =
      (template.renderBatch records undefined).value.log := by
  rw [renderBatch]
  simp only [Logged.value_bind, Logged.value_pure, Logged.events_bind, Logged.events_pure,
    Logged.events_tell, List.append_nil, List.map_append, events_renderRecords]
  refine ⟨?_, ?_⟩
  · rw [value_renderRecords]
    exact Batch.sorts_ofOutcomes _
  · rw [List.map_map]
    rfl

end Template

end Stencil
