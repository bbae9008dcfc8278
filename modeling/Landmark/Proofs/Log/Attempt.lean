import Landmark.Symbol.Basic

/-! # Results of attempts

What an attempt comes to, without the events on the way. Taking the result commutes
with every step an attempt is built from, so a statement about results never has to
look at events; where it does matter what is reported, the events stay available.
-/

namespace Landmark

open Log

section Except

variable {ε δ α β : Type}

theorem bind_eq_ok {r : Except ε α} {f : α → Except ε β} {b : β} :
    (r >>= f) = .ok b ↔ ∃ a, r = .ok a ∧ f a = .ok b := by
  cases r <;> simp [bind, Except.bind]

@[simp] theorem ok_bind (a : α) (f : α → Except ε β) :
    ((Except.ok a : Except ε α) >>= f) = f a := rfl

@[simp] theorem error_bind (cause : ε) (f : α → Except ε β) :
    ((Except.error cause : Except ε α) >>= f) = .error cause := rfl

@[simp] theorem mapError_ok (f : ε → δ) (a : α) :
    (Except.ok a : Except ε α).mapError f = .ok a := rfl

@[simp] theorem mapError_error (f : ε → δ) (cause : ε) :
    (Except.error cause : Except ε α).mapError f = .error (f cause) := rfl

theorem mapError_eq_ok {r : Except ε α} {f : ε → δ} {a : α} :
    r.mapError f = .ok a ↔ r = .ok a := by
  cases r <;> simp

theorem toOption_eq_some_iff {r : Except ε α} {a : α} : r.toOption = some a ↔ r = .ok a := by
  cases r <;> simp [Except.toOption]

theorem mapM_eq_pure_of_forall {m : Type → Type} [Monad m] [LawfulMonad m] {f : α → m β}
    {g : α → β} {row : List α} (all : ∀ a ∈ row, f a = pure (g a)) :
    row.mapM f = pure (row.map g) := by
  induction row with
  | nil => rfl
  | cons first rest ih =>
    rw [List.mapM_cons, all first List.mem_cons_self, pure_bind,
      ih fun a member => all a (List.mem_cons_of_mem _ member), pure_bind]
    rfl

theorem mapM_eq_ok_of_forall {f : α → Except ε β} {g : α → β} {row : List α}
    (all : ∀ a ∈ row, f a = .ok (g a)) : row.mapM f = .ok (row.map g) :=
  mapM_eq_pure_of_forall all

theorem exists_of_mem_mapM {f : α → Except ε β} {row : List α} {results : List β} {b : β}
    (whole : row.mapM f = .ok results) (member : b ∈ results) : ∃ a ∈ row, f a = .ok b := by
  induction row generalizing results with
  | nil =>
    obtain rfl := Except.ok.inj whole
    cases member
  | cons first rest ih =>
    rw [List.mapM_cons] at whole
    obtain ⟨head, here, later⟩ := bind_eq_ok.mp whole
    obtain ⟨others, behind, same⟩ := bind_eq_ok.mp later
    obtain rfl := Except.ok.inj same
    cases List.mem_cons.mp member with
    | inl same => exact ⟨first, List.mem_cons_self, same ▸ here⟩
    | inr inOthers =>
      obtain ⟨a, inRest, found⟩ := ih behind inOthers
      exact ⟨a, List.mem_cons_of_mem _ inRest, found⟩

end Except

namespace Log.Traced

instance : LawfulMonad Traced :=
  LawfulMonad.mk' Traced (fun _ => by simp [Functor.map])
    (fun _ _ => rfl)
    (fun a f g => by simp [bind, List.append_assoc])

@[simp] theorem value_mapM {α β : Type} (f : α → Traced β) (row : List α) :
    (row.mapM f).value = row.map fun a => (f a).value := by
  induction row with
  | nil => rfl
  | cons first rest ih =>
    simp only [List.mapM_cons, value_bind, value_pure, ih, List.map_cons]

end Log.Traced

namespace Log.Attempt

variable {ε δ α β : Type}

/-- What an attempt comes to, its events left out. -/
def result (a : Attempt ε α) : Except ε α := a.outcome.value

@[simp] theorem result_pure (a : α) : (pure a : Attempt ε α).result = .ok a := rfl

@[simp] theorem result_bind (a : Attempt ε α) (f : α → Attempt ε β) :
    (a >>= f).result = a.result >>= fun x => (f x).result := by
  change (ExceptT.bind a f).run.value = a.run.value >>= fun x => (f x).run.value
  simp only [ExceptT.run, ExceptT.bind, ExceptT.mk, Traced.value_bind]
  cases a.value <;> rfl

@[simp] theorem result_emit (event : Event) : (emit event : Attempt ε Unit).result = .ok () := rfl

@[simp] theorem result_ofExcept (r : Except ε α) : (ofExcept r).result = r := rfl

@[simp] theorem result_lift (a : Traced α) :
    result (ExceptT.lift a : Attempt ε α) = .ok a.value := rfl

@[simp] theorem result_mk (a : Traced (Except ε α)) :
    result (ExceptT.mk a : Attempt ε α) = a.value := rfl

theorem result_mapM (f : α → Attempt ε β) (row : List α) :
    (row.mapM f).result = row.mapM fun a => (f a).result := by
  induction row with
  | nil => rfl
  | cons first rest ih =>
    simp only [List.mapM_cons, result_bind, ih, result_pure]
    rfl

end Log.Attempt

namespace Search

variable {α : Type}

@[simp] theorem result_ofAttempt (a : Attempt Fatal α) :
    (ofAttempt a).result = a.result.mapError Halt.fatal := rfl

@[simp] theorem result_ofExcept (r : Except Fatal α) :
    (ofExcept r).result = r.mapError Halt.fatal := rfl

@[simp] theorem result_giveUp (symbol : Symbol) (reason : Reason) :
    (giveUp symbol reason : Search α).result =
      .error (.unresolved { symbol := symbol.text, reason }) := rfl

@[simp] theorem result_within (span : Span) (search : Search α) :
    (search.within span).result = search.result := rfl

end Search

end Landmark
