import Landmark.Log.Event

/-! # Values with the events that led to them

A traced value keeps the events of its computation in the order they happened. What
is computed does not depend on them: `value` of a chain is the chain of the values.
-/

namespace Landmark.Log

/-- A value and the events that happened on the way to it. -/
structure Traced (α : Type) where
  value : α
  events : List Event := []

namespace Traced

instance : Monad Traced where
  pure a := { value := a }
  bind a f :=
    let b := f a.value
    { value := b.value, events := a.events ++ b.events }

@[simp] theorem value_pure {α : Type} (a : α) : (pure a : Traced α).value = a := rfl

@[simp] theorem events_pure {α : Type} (a : α) : (pure a : Traced α).events = [] := rfl

@[simp] theorem value_bind {α β : Type} (a : Traced α) (f : α → Traced β) :
    (a >>= f).value = (f a.value).value := rfl

@[simp] theorem events_bind {α β : Type} (a : Traced α) (f : α → Traced β) :
    (a >>= f).events = a.events ++ (f a.value).events := rfl

/-- Reports an event. -/
def emit (event : Event) : Traced Unit := { value := (), events := [event] }

/-- Puts the events that have no span yet into a span. -/
def within {α : Type} (span : Span) (a : Traced α) : Traced α :=
  { a with events := a.events.map fun event =>
      match event.span with
      | some _ => event
      | none => { event with span := some span } }

@[simp] theorem value_within {α : Type} (span : Span) (a : Traced α) :
    (a.within span).value = a.value := rfl

end Traced

/-- A traced computation that may fail. -/
abbrev Attempt (ε α : Type) := ExceptT ε Traced α

namespace Attempt

/-- The outcome of an attempt, and the events on the way to it. -/
def outcome {ε α : Type} (a : Attempt ε α) : Traced (Except ε α) := a

/-- Reports an event and goes on. -/
def emit {ε : Type} (event : Event) : Attempt ε Unit := ExceptT.lift (Traced.emit event)

/-- An attempt that reports nothing. -/
def ofExcept {ε α : Type} (result : Except ε α) : Attempt ε α := ExceptT.mk (pure result)

end Attempt

end Landmark.Log
