import Landmark.LoadedModule
import Landmark.Survivor

/-! # Symbols and how the search for one ends

A search starts from a landmark, a text that occurs once or an exported function. It
derives candidates, checks them against a second source and is left with one. That a
symbol cannot be determined is an outcome like any other and says why; a fatal fault is
not an outcome of the search.
-/

namespace Landmark

open Log

/-- A symbol that is searched for. -/
inductive Symbol where
  | notifier
  | globals
  | player
  | cvar
  deriving DecidableEq

/-- The name of a symbol. -/
def Symbol.text : Symbol → String
  | notifier => "Notifier::notify"
  | globals => "globals"
  | player => "Player::setMessage"
  | cvar => "CVarBase::index"

/-- Why a symbol could not be determined. -/
inductive Reason where
  | anchorNotFound (anchor segment : String)
  | ambiguousAnchor (anchor segment : String) (count : Nat)
  | missingExport (name : String)
  | noCandidates
  | parseFailed (address : Nat)
  | tooFewCalls (found expected : Nat)
  | patternNotUnique (pattern : String)
  | noSurvivor
  | ambiguousSurvivors (count : Nat)
  | outsideModule (address : Nat)
  deriving DecidableEq

def Reason.message : Reason → String
  | anchorNotFound anchor segment =>
    "anchor " ++ Text.quoted anchor ++ " not found in " ++ segment
  | ambiguousAnchor anchor segment count =>
    "anchor " ++ Text.quoted anchor ++ " occurs " ++ count.repr ++ " times in " ++ segment
  | missingExport name => "export " ++ name ++ " not found"
  | noCandidates => "no candidates"
  | parseFailed address => "function at " ++ Hex.address address ++ " could not be parsed"
  | tooFewCalls found expected =>
    "found " ++ found.repr ++ " calls, expected at least " ++ expected.repr
  | patternNotUnique pattern => "instruction pattern not unique: " ++ pattern
  | noSurvivor => "no candidate survived cross-validation"
  | ambiguousSurvivors count =>
    count.repr ++ " distinct candidates survived cross-validation"
  | outsideModule address => Hex.address address ++ " lies outside the module"

/-- A symbol that could not be determined, and why. -/
structure Unresolved where
  symbol : String
  reason : Reason
  deriving DecidableEq

namespace Unresolved

def message (unresolved : Unresolved) : String :=
  unresolved.symbol ++ ": " ++ unresolved.reason.message

/-- The fault that it is where the symbol is required. -/
def fatal (unresolved : Unresolved) : Fatal :=
  .unresolved unresolved.symbol unresolved.reason.message

end Unresolved

/-- Why a search came to no address. -/
inductive Halt where
  | unresolved (unresolved : Unresolved)
  | fatal (fault : Fatal)
  deriving DecidableEq

/-- A search for a symbol. -/
abbrev Search (α : Type) := Attempt Halt α

namespace Search

/-- A step that may come upon a fatal fault. -/
def ofAttempt {α : Type} (attempt : Attempt Fatal α) : Search α :=
  ExceptT.adapt Halt.fatal attempt

/-- A step that reports nothing and may come upon a fatal fault. -/
def ofExcept {α : Type} (result : Except Fatal α) : Search α :=
  ofAttempt (Attempt.ofExcept result)

/-- Ends the search for a symbol. -/
def giveUp {α : Type} (symbol : Symbol) (reason : Reason) : Search α :=
  throw (.unresolved { symbol := symbol.text, reason })

/-- The part of the program that reports on searches in general. -/
def reporter : String := "sigresolve::resolve"

/-- The place of a text that has to occur just once. -/
def uniqueAnchor (symbol : Symbol) (segment : Segment) (anchor : String) : Search Nat := do
  match segment.find (Text.Utf8.encode anchor) with
  | [] => giveUp symbol (.anchorNotFound anchor segment.name)
  | [address] =>
    Attempt.emit {
      level := .debug, target := reporter, message := "anchor located"
      fields := [("anchor", .quoted anchor), ("address", .address address)] }
    return address
  | many => giveUp symbol (.ambiguousAnchor anchor segment.name many.length)

/-- The address of an exported function that has to be there. -/
def requiredExport (symbol : Symbol) (owner : LoadedModule) (name : String) : Search Nat := do
  match ← ofAttempt (owner.function? name) with
  | some address => return address
  | none => giveUp symbol (.missingExport name)

/-- The candidate that is left over alone. -/
def single {α : Type} (symbol : Symbol) : Survivor α → Search α
  | .one value => pure value
  | .none => giveUp symbol .noSurvivor
  | .ambiguous count => giveUp symbol (.ambiguousSurvivors count)

/-- Ends the search when an address lies in no segment. -/
def requireInside (symbol : Symbol) (owner : LoadedModule) (address : Nat) : Search Unit :=
  if owner.contains address then pure () else giveUp symbol (.outsideModule address)

/-- The span of a search in a module. -/
def span (owner : LoadedModule) (part name : String) : Span :=
  { target := "sigresolve::resolve::" ++ part, name, fields := [("module", .quoted owner.name)] }

/-- A search within its span. -/
def within {α : Type} (span : Span) (search : Search α) : Search α :=
  ExceptT.mk (search.outcome.within span)

end Search

end Landmark
