import Landmark.Symbol.Basic

/-! # The notifier

The function that notifies mentions its own name, which gives candidates for its entry.
An exported function asks for the notifier and calls the function on the answer, so
there a candidate is called right after something else, and both are found at once.
-/

namespace Landmark

open Log

/-- Where the notifier is asked for and where it is told. -/
structure NotifierAddresses where
  «instance» : Nat
  notify : Nat
  deriving DecidableEq

namespace Symbol.Notifier

/-- Each call with the one behind it. -/
def neighbours : List Nat → List NotifierAddresses
  | first :: second :: rest => ⟨first, second⟩ :: neighbours (second :: rest)
  | _ => []

/-- The part of the program that reports on this search. -/
def reporter : String := "sigresolve::resolve::notifier"

variable [Decoder]

/-- The search, but for its span. -/
def search (owner : LoadedModule) (config : Config) : Search NotifierAddresses := do
  let settings := config.notifier
  let rodata ← Search.ofExcept (owner.requireSegment config.segments.rodata)
  let code ← Search.ofExcept (owner.requireSegment config.segments.code)
  let anchor ← Search.uniqueAnchor .notifier rodata settings.anchor
  let candidates ←
    Search.ofAttempt (code.entriesReferencing config.entries settings.entryWindow anchor)
  if candidates.isEmpty then Search.giveUp .notifier .noCandidates
  let caller ← Search.requiredExport .notifier owner settings.callerExport
  match ← Search.ofAttempt (owner.routineAt? caller config.parser.maxInstructions) with
  | none => Search.giveUp .notifier (.parseFailed caller)
  | some routine =>
    let calls ← ExceptT.lift (routine.callTargets none)
    let called := Survivor.intersect candidates calls
    Attempt.emit {
      level := .debug, target := reporter
      message := "cross-checking entries against caller"
      fields := [("candidates", .number candidates.length), ("calls", .number calls.length),
        ("called", .number called.length)] }
    let pairs := (neighbours calls).filter fun pair => called.contains pair.notify
    let found ← Search.single .notifier (.ofCandidates pairs)
    Search.requireInside .notifier owner found.instance
    Search.requireInside .notifier owner found.notify
    Attempt.emit {
      level := .debug, target := reporter, message := "notifier resolved"
      fields := [("instance", .address found.instance), ("notify", .address found.notify)] }
    return found

/-- Searches for the notifier. -/
def resolve (owner : LoadedModule) (config : Config) : Search NotifierAddresses :=
  (search owner config).within (Search.span owner "notifier" "notifier")

end Symbol.Notifier

end Landmark
