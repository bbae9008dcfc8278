import Landmark.Symbol.Cvar
import Landmark.Symbol.Globals
import Landmark.Symbol.Notifier
import Landmark.Symbol.Player

/-! # Resolvers

A resolver searches one module for each symbol at most once and remembers how the
search ended, with an address or with a reason. A fatal fault is not remembered: the
next question searches anew. What is remembered of one symbol does not touch another.
-/

namespace Landmark

open Log

/-- What is found of a symbol. -/
abbrev Symbol.Location : Symbol → Type
  | .notifier => NotifierAddresses
  | .globals | .player | .cvar => Nat

/-- Searches for a symbol. -/
def Symbol.resolve [Decoder] (owner : LoadedModule) (config : Config) :
    (s : Symbol) → Search s.Location
  | .notifier => Notifier.resolve owner config
  | .globals => Globals.resolve owner config
  | .player => Player.resolve owner config
  | .cvar => Cvar.resolve owner config

/-- How the search for a symbol ended. -/
abbrev Resolution (s : Symbol) : Type := Except Unresolved s.Location

/-- A module, a configuration that can be used, and what is remembered. -/
structure Resolver where
  owner : LoadedModule
  config : Config
  remembered : (s : Symbol) → Option (Resolution s) := fun _ => none

/-- A question to a resolver. It may change what the resolver remembers. -/
abbrev Query (α : Type) := ExceptT Fatal (StateT Resolver Traced) α

namespace Query

/-- Reports an event. -/
def emit (event : Event) : Query Unit := ExceptT.lift (StateT.lift (Traced.emit event))

/-- The answer to a question, and the resolver afterwards. -/
def ask {α : Type} (query : Query α) (resolver : Resolver) :
    Traced (Except Fatal α × Resolver) :=
  StateT.run (ExceptT.run query) resolver

end Query

namespace Resolver

/-- A resolver that remembers nothing, when the configuration can be used. -/
def new (owner : LoadedModule) (config : Config) : Except Fatal Resolver :=
  match config.validate with
  | .ok () => .ok { owner, config }
  | .error fault => .error (.invalidConfig fault)

/-- The resolver that also remembers how the search for `s` ended. -/
def remember (resolver : Resolver) (s : Symbol) (resolution : Resolution s) : Resolver :=
  { resolver with
    remembered := fun t =>
      if same : s = t then some (same ▸ resolution) else resolver.remembered t }

/-- What is reported of a search that came to no address. -/
def unresolvedEvent (level : Level) (message : String) (unresolved : Unresolved) : Event :=
  { level, target := Search.reporter, message
    fields := [("symbol", .quoted unresolved.symbol),
      ("reason", .shown unresolved.reason.message)] }

variable [Decoder]

/-- Searches for a symbol, and reports it when it is unresolved. -/
def searchFor (resolver : Resolver) (s : Symbol) : Attempt Fatal (Resolution s) := do
  match ← ExceptT.lift (s.resolve resolver.owner resolver.config).outcome with
  | .ok location => return .ok location
  | .error (.unresolved unresolved) =>
    Attempt.emit (unresolvedEvent .debug "symbol unresolved" unresolved)
    return .error unresolved
  | .error (.fatal fault) => throw fault

/-- How the search for a symbol ended, or ends now. -/
def resolution (s : Symbol) : Query (Resolution s) := do
  let resolver ← get
  match resolver.remembered s with
  | some resolution => return resolution
  | none =>
    match ← ExceptT.lift (StateT.lift (resolver.searchFor s).outcome) with
    | .error fault => throw fault
    | .ok resolution =>
      set (resolver.remember s resolution)
      return resolution

/-- Whether a symbol can be determined. -/
def isLoaded (s : Symbol) : Query Bool := do
  return (← resolution s).toBool

/-- What is found of a symbol, when it can be determined. -/
def find? (s : Symbol) : Query (Option s.Location) := do
  return (← resolution s).toOption

/-- What is found of a symbol that is required. -/
def require (s : Symbol) : Query s.Location := do
  match ← resolution s with
  | .ok location => return location
  | .error unresolved =>
    Query.emit (unresolvedEvent .warn "required symbol missing" unresolved)
    throw unresolved.fatal

end Resolver

end Landmark
