import Landmark.Symbol.Basic

/-! # The globals

An exported function tests one of the globals against zero early on. The only such
test in its first bytes gives the address of that one, and the globals start a known
distance in front of it.
-/

namespace Landmark.Symbol.Globals

open Log

/-- The part of the program that reports on this search. -/
def reporter : String := "sigresolve::resolve::globals"

/-- The instruction that is looked for. -/
def pattern : String := "cmp dword ptr [mem], 0"

/-- The search, but for its span. -/
def search (owner : LoadedModule) (config : Config) : Search Nat := do
  let settings := config.globals
  let function ← Search.requiredExport .globals owner settings.function
  let segment ← Search.ofExcept (owner.requireSegmentAt function)
  match ← ExceptT.lift (segment.onlyRawCompare function settings.scanWindow) with
  | none => Search.giveUp .globals (.patternNotUnique pattern)
  | some field =>
    Search.requireInside .globals owner field
    if field < settings.playerFieldOffset then Search.giveUp .globals (.outsideModule field)
    let start := field - settings.playerFieldOffset
    Attempt.emit {
      level := .debug, target := reporter, message := "globals resolved"
      fields := [("player", .address field), ("globals", .address start)] }
    return start

/-- Searches for the globals. -/
def resolve (owner : LoadedModule) (config : Config) : Search Nat :=
  (search owner config).within (Search.span owner "globals" "globals")

end Landmark.Symbol.Globals
