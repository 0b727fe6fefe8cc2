import Stencil.Log.Event

/-!
# Results with a log

An operation that logs returns its events beside its result. Operations one after the other have the
events of the first before those of the second.
-/

namespace Stencil

/-- A result, and the events logged on the way to it. -/
structure Logged (α : Type) where
  value : α
  events : List Event

namespace Logged

instance : Monad Logged where
  pure value := ⟨value, []⟩
  bind first next :=
    let second := next first.value
    ⟨second.value, first.events ++ second.events⟩

/-- Logs one event. -/
def tell (event : Event) : Logged Unit := ⟨(), [event]⟩

@[simp] theorem value_pure {α : Type} (a : α) : (pure a : Logged α).value = a := rfl

@[simp] theorem events_pure {α : Type} (a : α) : (pure a : Logged α).events = [] := rfl

@[simp] theorem value_bind {α β : Type} (x : Logged α) (f : α → Logged β) :
    (x >>= f).value = (f x.value).value := rfl

@[simp] theorem events_bind {α β : Type} (x : Logged α) (f : α → Logged β) :
    (x >>= f).events = x.events ++ (f x.value).events := rfl

@[simp] theorem events_tell (event : Event) : (tell event).events = [event] := rfl

end Logged

end Stencil
