import Landmark.Log.Event

/-! # Which events are recorded

Directives give each reporting name the least severe level still recorded. Of the
directives whose name begins the reporting name the longest decides. A text of
directives is a list parted by commas; a text that is none asks for `info`.
-/

namespace Landmark.Log

/-- A limit for the names that begin with `target`; without a level nothing is recorded. -/
structure Directive where
  target : String
  limit : Option Level
  deriving DecidableEq

/-- The limits in force. -/
abbrev Directives := List Directive

namespace Directives

/-- The same limit for every name. -/
def uniform (limit : Option Level) : Directives := [{ target := "", limit }]

/-- The directive that decides for a name: the longest that begins it, of equals the last. -/
def deciding (directives : Directives) (target : String) : Option Directive :=
  directives.foldl (fun best directive =>
    if directive.target.toList.isPrefixOf target.toList then
      match best with
      | some other =>
        if other.target.length ≤ directive.target.length then some directive else best
      | none => some directive
    else best) none

/-- Whether something of this level and name is recorded. -/
def admits (directives : Directives) (level : Level) (target : String) : Bool :=
  match (directives.deciding target).bind Directive.limit with
  | some limit => level.rank ≤ limit.rank
  | none => false

/-- The event as it is recorded: without its span where that is not recorded itself. -/
def record? (directives : Directives) (event : Event) : Option Event :=
  if directives.admits event.level event.target then
    some { event with span := event.span.filter fun span => directives.admits .info span.target }
  else none

/-- The recorded events. -/
def record (directives : Directives) (events : List Event) : List Event :=
  events.filterMap directives.record?

/-- A limit by name, in any case, or by number. -/
def limit? (word : String) : Option (Option Level) :=
  match word.toLower with
  | "off" | "0" => some none
  | "error" | "1" => some (some .error)
  | "warn" | "2" => some (some .warn)
  | "info" | "3" => some (some .info)
  | "debug" | "4" => some (some .debug)
  | "trace" | "5" => some (some .trace)
  | _ => none

/-- Whether a text can be the name of a directive. -/
def isTarget (word : String) : Bool :=
  !word.isEmpty && word.toList.all fun c => c.isAlphanum || c == '_' || c == ':' || c == '-'

/-- The directive that a text is. A name alone records everything. -/
def directive? (piece : String) : Option Directive :=
  match piece.splitOn "=" with
  | [word] =>
    match limit? word with
    | some limit => some { target := "", limit }
    | none => if isTarget word then some { target := word, limit := some .trace } else none
  | [target, word] =>
    if isTarget target then
      if word.isEmpty then some { target, limit := some .trace }
      else (limit? word).map fun limit => { target, limit }
    else none
  | _ => none

/-- The directives of a text, when every piece of it is one. -/
def ofText? (text : String) : Option Directives :=
  ((text.splitOn ",").filter fun piece => !piece.isEmpty).mapM directive?

/-- The directives asked for: `info` where none are, or where the text is no list of
directives. -/
def requested (text : Option String) : Directives :=
  (text.bind ofText?).getD (uniform (some .info))

end Directives

end Landmark.Log
