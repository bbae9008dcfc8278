import Landmark.Text.Shown

/-! # Events of a log

An event has a level, the name of the part that reports it, a message and named
values in the order they were given. Events of one resolution carry its span. The
line of an event shows the last part of the reporting name in brackets.
-/

namespace Landmark.Log

/-- How severe an event is. -/
inductive Level where
  | error
  | warn
  | info
  | debug
  | trace
  deriving DecidableEq

namespace Level

/-- Levels in order, the most severe first. -/
def rank : Level → Nat
  | error => 1
  | warn => 2
  | info => 3
  | debug => 4
  | trace => 5

/-- The name of the level. -/
def text : Level → String
  | error => "ERROR"
  | warn => "WARN"
  | info => "INFO"
  | debug => "DEBUG"
  | trace => "TRACE"

end Level

/-- A value that an event carries. -/
inductive Value where
  /-- Text that a line shows as it is. -/
  | shown (text : String)
  /-- Text that a line shows in quotes. -/
  | quoted (text : String)
  | number (n : Nat)
  deriving DecidableEq

def Value.text : Value → String
  | shown text => text
  | quoted text => Text.quoted text
  | number n => n.repr

/-- An address, as events show it. -/
def Value.address (n : Nat) : Value := .shown (Hex.address n)

/-- The activity during which events happen. Spans are of level `info`. -/
structure Span where
  target : String
  name : String
  fields : List (String × Value)
  deriving DecidableEq

/-- Something that happened. -/
structure Event where
  level : Level
  /-- The part of the program that reports it. -/
  target : String
  message : String
  fields : List (String × Value)
  span : Option Span := none
  deriving DecidableEq

/-- What stands in front of the first pair of colons, all of it where there is none. -/
def untilColons : List Char → List Char
  | ':' :: ':' :: _ => []
  | c :: rest => c :: untilColons rest
  | [] => []

/-- The last part of a reporting name, in capitals. -/
def component (target : String) : String :=
  String.ofList ((untilColons target.toList.reverse).reverse.map Char.toUpper)

/-- The line of an event. -/
def Event.line (event : Event) : String :=
  let span :=
    match event.span with
    | some span => span.name ++ " - "
    | none => ""
  let fields := event.fields.map fun (name, value) => " " ++ name ++ "=" ++ value.text
  "[" ++ component event.target ++ "] " ++ span ++ event.message ++ String.join fields

end Landmark.Log
