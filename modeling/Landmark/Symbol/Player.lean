import Landmark.Symbol.Basic

/-! # The message function of the player

A message is built by calls in a known order: right behind the mention of its text come
a call of an exported function and, at a known position, the call of the function that
is looked for. The calls are scanned as bytes from the mention on.
-/

namespace Landmark.Symbol.Player

open Log

/-- The part of the program that reports on this search. -/
def reporter : String := "sigresolve::resolve::player"

/-- The function that the calls behind one mention lead to, when they are as they should be. -/
def candidate (code : Segment) (settings : PlayerSettings) (gettext reference : Nat) :
    Traced (Option Nat) := do
  let calls ← code.rawCalls reference settings.callWindow
  if calls.length < settings.minCalls then
    Traced.emit {
      level := .trace, target := reporter, message := "too few calls after reference"
      fields := [("reference", .address reference), ("calls", .number calls.length)] }
    return none
  else if calls[settings.gettextIndex]? ≠ some gettext then
    Traced.emit {
      level := .trace, target := reporter, message := "first call is not gettext_"
      fields := [("reference", .address reference)] }
    return none
  else return calls[settings.resultIndex]?

/-- The search, but for its span. -/
def search (owner : LoadedModule) (config : Config) : Search Nat := do
  let settings := config.player
  let rodata ← Search.ofExcept (owner.requireSegment config.segments.rodata)
  let code ← Search.ofExcept (owner.requireSegment config.segments.code)
  let gettext ← Search.requiredExport .player owner settings.gettextExport
  let anchor ← Search.uniqueAnchor .player rodata settings.anchor
  let references := code.references anchor
  if references.isEmpty then Search.giveUp .player .noCandidates
  let found ← ExceptT.lift (references.mapM (candidate code settings gettext))
  let survivors := found.filterMap id
  Attempt.emit {
    level := .debug, target := reporter, message := "call sequences checked"
    fields := [("references", .number references.length),
      ("survivors", .number survivors.length)] }
  let target ← Search.single .player (.ofCandidates survivors)
  Search.requireInside .player owner target
  Attempt.emit {
    level := .debug, target := reporter, message := "setMessage resolved"
    fields := [("address", .address target)] }
  return target

/-- Searches for the message function of the player. -/
def resolve (owner : LoadedModule) (config : Config) : Search Nat :=
  (search owner config).within (Search.span owner "player" "player_set_message")

end Landmark.Symbol.Player
