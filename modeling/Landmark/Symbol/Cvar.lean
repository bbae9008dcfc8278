import Landmark.Symbol.Basic

/-! # The index accessor of the variables

The constructor of the variables mentions its own name. Of the functions that may start
in front of a mention only those are kept whose instructions cover it. The accessor is
called by the constructor at a known position among its direct calls.
-/

namespace Landmark.Symbol.Cvar

open Log

/-- The part of the program that reports on this search. -/
def reporter : String := "sigresolve::resolve::cvar"

variable [Decoder]

/-- The function at a candidate entry, when its instructions cover a mention. The start of the
segment is a candidate too, but no address of it. -/
def constructor? (owner : LoadedModule) (code : Segment) (limit : Nat) (references : List Nat)
    (entry : Nat) : Attempt Fatal (Option Routine) := do
  if code.contains entry then
    match ← owner.routineAt? entry limit with
    | some routine =>
      return if references.any routine.contains then some routine else none
    | none => return none
  else return none

/-- The search, but for its span. -/
def search (owner : LoadedModule) (config : Config) : Search Nat := do
  let settings := config.cvar
  let rodata ← Search.ofExcept (owner.requireSegment config.segments.rodata)
  let code ← Search.ofExcept (owner.requireSegment config.segments.code)
  let anchor ← Search.uniqueAnchor .cvar rodata settings.anchor
  let references := code.references anchor
  let candidates ←
    Search.ofAttempt (code.entriesReferencing config.entries settings.entryWindow anchor)
  if candidates.isEmpty then Search.giveUp .cvar .noCandidates
  let limit := config.parser.maxInstructions
  let found ←
    Search.ofAttempt (candidates.mapM (constructor? owner code limit references))
  let constructors := found.filterMap id
  Attempt.emit {
    level := .debug, target := reporter, message := "parsed candidate constructors"
    fields := [("candidates", .number candidates.length),
      ("constructors", .number constructors.length)] }
  let entry ← Search.single .cvar (.ofCandidates (constructors.map Routine.entry))
  match constructors.find? fun routine => routine.entry == entry with
  | none => Search.giveUp .cvar .noSurvivor
  | some constructor =>
    let calls ← ExceptT.lift (constructor.callTargets none)
    match calls[settings.accessorCallIndex]? with
    | none =>
      Search.giveUp .cvar (.tooFewCalls calls.length (settings.accessorCallIndex + 1))
    | some accessor =>
      Search.requireInside .cvar owner accessor
      Attempt.emit {
        level := .debug, target := reporter, message := "cvar index accessor resolved"
        fields := [("constructor", .address entry), ("accessor", .address accessor)] }
      return accessor

/-- Searches for the index accessor of the variables. -/
def resolve (owner : LoadedModule) (config : Config) : Search Nat :=
  (search owner config).within (Search.span owner "cvar" "cvar_index")

end Landmark.Symbol.Cvar
