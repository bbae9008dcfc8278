/-! # Formats of JSON text

A record is written as an object and read from one, which may give its parts in any order and leave
some of them out. How the texts of numbers, of other texts and of records are read and written is up
to a format, and so are the words for what is wrong with a text. A format is known by its interface
alone. What a record is made of is said by its slots.
-/

namespace Landmark

namespace JsonFormat

/-- What is wrong with a text, in the words of its reader. -/
structure Fault where
  message : String
  deriving DecidableEq

/-- Takes a value off the front of a text. -/
abbrev Reader (α : Type) := List Char → Except Fault (α × List Char)

/-- A part of a record: its name, how to take it off a text and how to write it. -/
structure Slot (σ : Type) where
  name : String
  read : σ → Reader σ
  write : σ → List Char

/-- Whether a character is blank, as JSON has it. -/
def isBlank (c : Char) : Bool := c == ' ' || c == '\n' || c == '\t' || c == '\r'

end JsonFormat

open JsonFormat

/-- How values are read from JSON text and written as such. -/
class JsonFormat where
  /-- Takes a whole number of at most `limit`. -/
  readNat (limit : Nat) : Reader Nat
  readText : Reader String
  /-- Takes a record. What the text leaves out is as in `value`. -/
  readRecord {σ : Type} (slots : List (Slot σ)) (value : σ) : Reader σ
  /-- Fails when more than blanks is left of a text. -/
  finish : List Char → Except Fault Unit
  writeNat : Nat → List Char
  writeText : String → List Char
  /-- Writes a record with its slots in the order given. -/
  writeRecord {σ : Type} (slots : List (Slot σ)) (value : σ) : List Char

namespace JsonFormat

variable [JsonFormat] {σ τ : Type}

/-- Reads a text that is one record and nothing else. -/
def readWhole (slots : List (Slot σ)) (value : σ) (text : String) : Except Fault σ := do
  let (value, rest) ← readRecord slots value text.toList
  finish rest
  return value

/-- A slot that holds a whole number of at most `limit`. -/
def Slot.ofNat (name : String) (limit : Nat) (get : σ → Nat) (set : σ → Nat → σ) : Slot σ where
  name
  read value := fun text => (readNat limit text).map fun (n, rest) => (set value n, rest)
  write value := writeNat (get value)

/-- A slot that holds text. -/
def Slot.ofText (name : String) (get : σ → String) (set : σ → String → σ) : Slot σ where
  name
  read value := fun text => (readText text).map fun (s, rest) => (set value s, rest)
  write value := writeText (get value)

/-- A slot that holds a record, read from what it is when nothing is given. -/
def Slot.ofRecord (name : String) (slots : List (Slot τ)) (initial : τ) (get : σ → τ)
    (set : σ → τ → σ) : Slot σ where
  name
  read value := fun text =>
    (readRecord slots initial text).map fun (inner, rest) => (set value inner, rest)
  write value := writeRecord slots (get value)

end JsonFormat

end Landmark
