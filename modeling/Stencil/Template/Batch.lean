import Stencil.Template.Basic

/-!
# Batches

One template rendered for each record of a list. A record that cannot be rendered is put down as a
failure under its position, and the others are rendered all the same.
-/

namespace Stencil

/-- What became of the records of a batch, in two lists in increasing order of position. -/
structure Batch where
  rendered : List (Nat × Rendered)
  failures : List (Nat × TemplateError)
  deriving Repr

namespace Batch

def renderedCount (batch : Batch) : Nat := batch.rendered.length

def failedCount (batch : Batch) : Nat := batch.failures.length

/-- Whether every record was rendered. -/
def isComplete (batch : Batch) : Bool := batch.failures.isEmpty

end Batch

namespace Template

/-- Renders one record, which has to be an object. -/
def renderRecord (template : Template) (undefined : Undefined) (record : Json) :
    Except TemplateError Rendered := do
  template.renderWith (← Bindings.ofJson record) undefined

/-- Renders the records from position `index` on. Each failure is logged as it happens. -/
def renderRecords (template : Template) (undefined : Undefined) (index : Nat) :
    List Json → Logged Batch
  | [] => return ⟨[], []⟩
  | record :: records =>
    match template.renderRecord undefined record with
    | .ok doc => do
      let batch ← renderRecords template undefined (index + 1) records
      return ⟨(index, doc) :: batch.rendered, batch.failures⟩
    | .error e => do
      Logged.tell (.recordFailed index e)
      let batch ← renderRecords template undefined (index + 1) records
      return ⟨batch.rendered, (index, e) :: batch.failures⟩

/-- Renders all records, and logs how many were rendered and how many were not. -/
def renderBatch (template : Template) (records : List Json) (undefined : Undefined) :
    Logged Batch := do
  let batch ← template.renderRecords undefined 0 records
  Logged.tell (.batchFinished batch.renderedCount batch.failedCount)
  return batch

end Template

end Stencil
