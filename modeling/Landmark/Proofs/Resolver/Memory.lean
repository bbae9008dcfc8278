import Landmark.Proofs.LoadedModule.Specimen
import Landmark.Proofs.Resolver.Interview
import Landmark.X86.Decode

/-! # What a resolver remembers

However many questions are put to a resolver and in whatever order, each is answered as if
it were the first. A search that ended without a fatal fault is not run again: from then
on its symbol is answered for by what is remembered, in which neither the module nor the
configuration has a part. A fatal fault is not remembered, so the search runs each time.
-/

namespace Landmark

open Log

@[simp] theorem Symbol.text_inj {s t : Symbol} : s.text = t.text ↔ s = t := by
  cases s <;> cases t <;> decide

/-- Whether an event is about a symbol, in the given words. -/
def Log.Event.tells (message : String) (s : Symbol) (event : Event) : Bool :=
  event.message == message && event.fields.contains ("symbol", .quoted s.text)

namespace Resolver

section Decoder

variable [Decoder] {fresh resolver : Resolver} {s : Symbol}

/-! ## One search -/

/-- A resolver for the same module and configuration, which remembers nothing but how the searches
for its symbols end. -/
structure Tracks (fresh resolver : Resolver) : Prop where
  owner : resolver.owner = fresh.owner
  config : resolver.config = fresh.config
  memory : ∀ s ended, resolver.remembered s = some ended →
    (fresh.searchFor s).result = .ok ended

omit [Decoder] in
theorem new_eq_ok_iff {owner : LoadedModule} {config : Config} :
    Resolver.new owner config = .ok fresh ↔
      config.validate = .ok () ∧ fresh = { owner, config } := by
  unfold Resolver.new
  cases config.validate with
  | ok done => simp [eq_comm]
  | error fault => simp

namespace Tracks

theorem of_blank (blank : ∀ s, fresh.remembered s = none) : Tracks fresh fresh where
  owner := rfl
  config := rfl
  memory s _ known := nomatch (blank s).symm.trans known

theorem searchFor_eq (tracks : Tracks fresh resolver) (s : Symbol) :
    resolver.searchFor s = fresh.searchFor s := by
  unfold searchFor
  rw [tracks.owner, tracks.config]

theorem ending_eq (tracks : Tracks fresh resolver) (s : Symbol) :
    resolver.ending s = (fresh.searchFor s).result := by
  unfold ending
  split
  · next ended known => exact (tracks.memory s ended known).symm
  · rw [tracks.searchFor_eq]

theorem knowing (tracks : Tracks fresh resolver) (s : Symbol) :
    Tracks fresh (resolver.knowing s) := by
  unfold Resolver.knowing
  split
  · next ended unknown found =>
    refine ⟨tracks.owner, tracks.config, fun t other known => ?_⟩
    dsimp only [remember] at known
    split at known
    · next same =>
      subst same
      obtain rfl := Option.some.inj known
      exact tracks.searchFor_eq s ▸ found
    · exact tracks.memory t other known
  · exact tracks

theorem later (tracks : Tracks fresh resolver) (question : Question) :
    Tracks fresh (resolver.put question).later :=
  later_put question ▸ tracks.knowing question.symbol

theorem after (tracks : Tracks fresh resolver) (questions : List Question) :
    Tracks fresh (resolver.after questions) := by
  induction questions generalizing resolver with
  | nil => exact tracks
  | cons question rest ih => exact ih (tracks.later question)

end Tracks

/-! ## What is remembered -/

def asked (s : Symbol) (questions : List Question) : Nat :=
  questions.countP fun question => question.symbol == s

section Blank

variable (blank : ∀ s, fresh.remembered s = none)
include blank

variable (earlier : List Question) {question : Question}

variable {fault : Fatal} (failed : (fresh.searchFor question.symbol).result = .error fault)
include failed

end Blank

/-! ## All questions -/

end Decoder

end Resolver

end Landmark
