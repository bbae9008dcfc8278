import Landmark.Proofs.Log.Attempt

/-! # What attempts report

Which events a computation can report is settled step by step: a chain reports what its
steps report, and a step that is not reached reports nothing. An event that no step can
report is therefore never among the events of a whole search.
-/

namespace Landmark.Log

variable {ε δ α β : Type} {allowed : Event → Prop}

namespace Traced

/-- Every event on the way is one of those allowed. -/
def Reports (allowed : Event → Prop) (a : Traced α) : Prop := ∀ event ∈ a.events, allowed event

namespace Reports

theorem pure (a : α) : Reports allowed (Pure.pure a : Traced α) :=
  fun _ member => nomatch member

theorem emit {event : Event} (fits : allowed event) : Reports allowed (Traced.emit event) := by
  intro other member
  obtain rfl := List.mem_singleton.mp member
  exact fits

theorem bind {a : Traced α} {f : α → Traced β} (first : Reports allowed a)
    (later : ∀ x, Reports allowed (f x)) : Reports allowed (a >>= f) := by
  intro event member
  rw [events_bind] at member
  cases List.mem_append.mp member with
  | inl before => exact first event before
  | inr behind => exact later _ event behind

theorem mapM {f : α → Traced β} (each : ∀ x, Reports allowed (f x)) (row : List α) :
    Reports allowed (row.mapM f) := by
  induction row with
  | nil => exact pure []
  | cons first rest ih =>
    rw [List.mapM_cons]
    exact bind (each first) fun _ => bind ih fun _ => pure _

end Reports

end Traced

namespace Attempt

/-- The events on the way to the result. -/
def events (a : Attempt ε α) : List Event := a.outcome.events

theorem events_bind (a : Attempt ε α) (f : α → Attempt ε β) :
    (a >>= f).events = a.events ++
      match a.result with
      | .ok x => (f x).events
      | .error _ => [] := by
  change a.outcome.events ++ Traced.events (ExceptT.bindCont f a.outcome.value) = _
  unfold result events
  cases a.outcome.value <;> rfl

theorem events_lift (a : Traced α) : events (ExceptT.lift a : Attempt ε α) = a.events :=
  List.append_nil a.events

/-- Every event on the way is one of those allowed. -/
def Reports (allowed : Event → Prop) (a : Attempt ε α) : Prop := a.outcome.Reports allowed

namespace Reports

theorem pure (a : α) : Reports allowed (Pure.pure a : Attempt ε α) := Traced.Reports.pure _

theorem throw (cause : ε) : Reports allowed (MonadExcept.throw cause : Attempt ε α) :=
  Traced.Reports.pure _

theorem ofExcept (result : Except ε α) : Reports allowed (Attempt.ofExcept result) :=
  Traced.Reports.pure _

theorem lift {a : Traced α} (reports : a.Reports allowed) :
    Reports allowed (ExceptT.lift a : Attempt ε α) := by
  intro event member
  exact reports event (events_lift a ▸ member)

theorem emit {event : Event} (fits : allowed event) :
    Reports allowed (Attempt.emit event : Attempt ε Unit) :=
  lift (Traced.Reports.emit fits)

theorem bind {a : Attempt ε α} {f : α → Attempt ε β} (first : Reports allowed a)
    (later : ∀ x, Reports allowed (f x)) : Reports allowed (a >>= f) := by
  intro event member
  change event ∈ (a >>= f).events at member
  rw [events_bind] at member
  cases List.mem_append.mp member with
  | inl before => exact first event before
  | inr behind =>
    cases reached : a.result with
    | ok x =>
      rw [reached] at behind
      exact later x event behind
    | error cause =>
      rw [reached] at behind
      cases behind

theorem mapM {f : α → Attempt ε β} (each : ∀ x, Reports allowed (f x)) (row : List α) :
    Reports allowed (row.mapM f) := by
  induction row with
  | nil => exact pure []
  | cons first rest ih =>
    rw [List.mapM_cons]
    exact bind (each first) fun _ => bind ih fun _ => pure _

theorem adapt {a : Attempt ε α} (f : ε → δ) (reports : Reports allowed a) :
    Reports allowed (ExceptT.adapt f a : Attempt δ α) := by
  have same : Attempt.events (ExceptT.adapt f a : Attempt δ α) = a.events :=
    List.append_nil a.events
  intro event member
  have before : event ∈ a.events := same ▸ member
  exact reports event before

end Reports

end Attempt

end Landmark.Log
