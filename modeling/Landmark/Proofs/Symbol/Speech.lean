import Landmark.Proofs.Log.Reports
import Landmark.Symbol.Cvar
import Landmark.Symbol.Globals
import Landmark.Symbol.Notifier
import Landmark.Symbol.Player

/-! # What searches say

Whatever a search comes to, it speaks of its own symbol only: when it gives up it names
that symbol. And how searches end is for the resolver to report; no search says of itself
that its symbol is unresolved or missing.
-/

namespace Landmark

open Log

namespace Log.Event

/-- The event does not say how a search ended. -/
def Ordinary (event : Event) : Prop :=
  event.message ≠ "symbol unresolved" ∧ event.message ≠ "required symbol missing"

@[simp] theorem ordinary_iff {event : Event} :
    event.Ordinary ↔
      event.message ≠ "symbol unresolved" ∧ event.message ≠ "required symbol missing" :=
  .rfl

end Log.Event

section Parts

variable {segment : Segment} {owner : LoadedModule}

theorem LoadedModule.function?_reports (name : String) :
    (owner.function? name).Reports Event.Ordinary := by
  unfold LoadedModule.function?
  split
  · exact .bind (.ofExcept _) fun _ => .pure _
  · exact .bind (.emit (by simp)) fun _ => .pure _

end Parts

namespace Search

/-- The search speaks of one symbol only, and leaves it to others to report how it ended. -/
structure Speaks {α : Type} (symbol : Symbol) (search : Search α) : Prop where
  names : ∀ unresolved, search.result = .error (.unresolved unresolved) →
    unresolved.symbol = symbol.text
  reports : search.Reports Event.Ordinary

namespace Speaks

variable {α β : Type} {symbol : Symbol} {search : Search α}

theorem pure (a : α) : Speaks symbol (Pure.pure a : Search α) where
  names _ failed := nomatch failed
  reports := .pure a

theorem giveUp (reason : Reason) : Speaks symbol (Search.giveUp symbol reason : Search α) where
  names _ failed := by
    obtain rfl := Halt.unresolved.inj (Except.error.inj failed)
    rfl
  reports := .throw _

theorem bind {follow : α → Search β} (first : Speaks symbol search)
    (later : ∀ a, Speaks symbol (follow a)) : Speaks symbol (search >>= follow) where
  names unresolved failed := by
    rw [Attempt.result_bind] at failed
    cases ended : search.result with
    | ok a =>
      rw [ended] at failed
      exact (later a).names unresolved failed
    | error halt =>
      rw [ended] at failed
      obtain rfl := Except.error.inj failed
      exact first.names unresolved ended
  reports := .bind first.reports fun a => (later a).reports

theorem ofAttempt {attempt : Attempt Fatal α} (reports : attempt.Reports Event.Ordinary) :
    Speaks symbol (Search.ofAttempt attempt) where
  names unresolved failed := by
    rw [result_ofAttempt] at failed
    cases ended : attempt.result with
    | ok a =>
      rw [ended] at failed
      cases failed
    | error fault =>
      rw [ended] at failed
      cases failed
  reports := .adapt _ reports

theorem ofExcept (result : Except Fatal α) : Speaks symbol (Search.ofExcept result) :=
  ofAttempt (.ofExcept result)

theorem lift {a : Traced α} (reports : a.Reports Event.Ordinary) :
    Speaks symbol (ExceptT.lift a : Search α) where
  names _ failed := nomatch failed
  reports := .lift reports

theorem emit {event : Event} (ordinary : event.Ordinary) :
    Speaks symbol (Attempt.emit event : Search Unit) :=
  lift (.emit ordinary)

theorem guard {condition : Prop} [Decidable condition] {reason : Reason} {given : β → Search α}
    (passed : Speaks symbol search) :
    Speaks symbol (if condition then Search.giveUp symbol reason >>= given else search) := by
  split
  · have ended : Search.giveUp symbol reason >>= given = Search.giveUp symbol reason := rfl
    exact ended ▸ giveUp reason
  · exact passed

theorem within (span : Span) (speaks : Speaks symbol search) :
    Speaks symbol (search.within span) where
  names := speaks.names
  reports := by
    intro event member
    obtain ⟨before, origin, rfl⟩ := List.mem_map.mp member
    have ordinary := speaks.reports before origin
    split
    · exact ordinary
    · exact ordinary

theorem uniqueAnchor (segment : Segment) (anchor : String) :
    Speaks symbol (Search.uniqueAnchor symbol segment anchor) := by
  unfold Search.uniqueAnchor
  split
  · exact giveUp _
  · exact bind (emit (by simp)) fun _ => pure _
  · exact giveUp _

theorem requiredExport (owner : LoadedModule) (name : String) :
    Speaks symbol (Search.requiredExport symbol owner name) := by
  refine bind (ofAttempt (LoadedModule.function?_reports name)) fun found => ?_
  cases found with
  | none => exact giveUp _
  | some address => exact pure address

theorem single (survivor : Survivor α) : Speaks symbol (Search.single symbol survivor) := by
  cases survivor with
  | none => exact giveUp _
  | one value => exact pure value
  | ambiguous count => exact giveUp _

theorem requireInside (owner : LoadedModule) (address : Nat) :
    Speaks symbol (Search.requireInside symbol owner address) := by
  unfold Search.requireInside
  split
  · exact pure ()
  · exact giveUp _

end Speaks

end Search

namespace Symbol

variable (owner : LoadedModule) (config : Config)

end Symbol

end Landmark
