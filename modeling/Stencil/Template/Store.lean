import Stencil.Template.Basic
import Stencil.Template.Id

/-!
# The template store

Templates under ids. An entry keeps the source beside the template made from it, and the clock
readings of its creation and of its last change. A write that fails leaves the store as it was, and
one that succeeds is logged.
-/

namespace Stencil

/-- A reading of the clock. -/
abbrev Time := Nat

/-- A template under an id, with its source. -/
structure StoredTemplate where
  id : String
  source : Json
  compiled : Template
  createdAt : Time
  updatedAt : Time

/-- The templates by id. -/
structure Store where
  entries : Members StoredTemplate
  increasing : entries.Increasing

namespace Store

/-- What a write returns: its result, and the store after it. -/
structure Change (α : Type) where
  result : Except TemplateError α
  store : Store

def empty : Store := ⟨[], Members.increasing_nil⟩

/-- The entry of an id. -/
def get? (store : Store) (id : String) : Option StoredTemplate := store.entries.lookup id

/-- Whether an id has an entry. -/
def contains (store : Store) (id : String) : Bool := store.entries.contains id

/-- The number of entries. -/
def size (store : Store) : Nat := store.entries.length

/-- All entries, in the order of their ids. -/
def toList (store : Store) : List StoredTemplate := store.entries.map Prod.snd

def get (store : Store) (id : String) : Except TemplateError StoredTemplate :=
  match store.get? id with
  | some stored => .ok stored
  | none => .error (.notFound id)

/-- The template of an id. It stays as it is when the entry changes later. -/
def compiled (store : Store) (id : String) : Except TemplateError Template := do
  return (← store.get id).compiled

/-- Renders the template of an id with the members of a JSON object. -/
def render (store : Store) (id : String) (values : Json) (undefined : Undefined) :
    Except TemplateError Rendered := do
  let template ← store.compiled id
  let bindings ← Bindings.ofJson values
  template.renderWith bindings undefined

/-- Puts an entry under its id. -/
def put (store : Store) (stored : StoredTemplate) : Store :=
  ⟨store.entries.insert stored.id stored, Members.increasing_insert store.increasing⟩

/-- Removes the entry of an id. -/
def remove (store : Store) (id : String) : Store :=
  ⟨store.entries.erase id, Members.increasing_erase store.increasing⟩

/-- A write that failed. -/
def refuse {α : Type} (store : Store) (e : TemplateError) : Change α := ⟨.error e, store⟩

/-- Makes an entry under an id that has none. The id is checked first, and the source last. -/
def create (store : Store) (now : Time) (id : String) (source : Json) :
    Logged (Change StoredTemplate) :=
  match TemplateId.validate id with
  | .error e => return store.refuse e
  | .ok () =>
    if store.contains id then return store.refuse (.alreadyExists id)
    else do
      match ← Template.compileJson source with
      | .error e => return store.refuse e
      | .ok template =>
        let stored : StoredTemplate := ⟨id, source, template, now, now⟩
        Logged.tell (.templateCreated id)
        return ⟨.ok stored, store.put stored⟩

/-- Gives the entry of an id a new source. It keeps its time of creation. -/
def update (store : Store) (now : Time) (id : String) (source : Json) :
    Logged (Change StoredTemplate) :=
  match store.get? id with
  | none => return store.refuse (.notFound id)
  | some previous => do
    match ← Template.compileJson source with
    | .error e => return store.refuse e
    | .ok template =>
      let stored : StoredTemplate := ⟨id, source, template, previous.createdAt, now⟩
      Logged.tell (.templateUpdated id)
      return ⟨.ok stored, store.put stored⟩

/-- Removes the entry of an id that has one. -/
def delete (store : Store) (id : String) : Logged (Change Unit) :=
  if store.contains id then do
    Logged.tell (.templateDeleted id)
    return ⟨.ok (), store.remove id⟩
  else return store.refuse (.notFound id)

end Store

end Stencil
