import Landmark.Image.Header

/-! # The export directory

The directory lists functions by number; a second table gives names to some of the
numbers. A function whose offset lies in the directory itself is forwarded: there
stands the name of a function elsewhere.
-/

namespace Landmark.Image

/-- An exported function. -/
structure Export where
  name : Option String
  ordinal : Nat
  rva : Nat
  /-- The function elsewhere that stands for this one. -/
  forwarder : Option String
  deriving DecidableEq

/-- The exports of an image, in the order of their numbers. -/
structure ExportTable where
  library : Option String
  ordinalBase : Nat
  entries : List Export
  deriving DecidableEq

namespace ExportTable

/-- The table of an image that exports nothing. -/
def empty : ExportTable := { library := none, ordinalBase := 0, entries := [] }

/-- The export of a name; of several the one with the highest number. -/
def find? (table : ExportTable) (name : String) : Option Export :=
  table.entries.reverse.find? fun entry => entry.name == some name

/-- How many functions are exported. -/
def size (table : ExportTable) : Nat := table.entries.length

end ExportTable

/-- Where the tables of an export directory stand, and how long they are. -/
structure ExportDirectory where
  library : Nat
  ordinalBase : Nat
  functionCount : Nat
  nameCount : Nat
  functions : Nat
  names : Nat
  numbers : Nat
  deriving DecidableEq

/-- Reads the fixed part of an export directory, with counts of at most `limit`. -/
def readExportDirectory (bytes : Bytes) (offset limit : Nat) : Except Fault ExportDirectory := do
  return {
    library := ← readWord bytes 4 (offset + 12)
    ordinalBase := ← readWord bytes 4 (offset + 16)
    functionCount := min (← readWord bytes 4 (offset + 20)) limit
    nameCount := min (← readWord bytes 4 (offset + 24)) limit
    functions := ← readWord bytes 4 (offset + 28)
    names := ← readWord bytes 4 (offset + 32)
    numbers := ← readWord bytes 4 (offset + 36) }

/-- Reads the name in a slot and the number of the function it names; a slot may be unused. -/
def readNameSlot (bytes : Bytes) (directory : ExportDirectory) (slot : Nat) :
    Except Fault (Option (Nat × String)) := do
  let rva ← readWord bytes 4 (directory.names + slot * 4)
  let number ← readWord bytes 2 (directory.numbers + slot * 2)
  if rva = 0 then return none
  return some (number, ← readName bytes rva 512)

/-- Reads the names, each with the number of its function. -/
def readNames (bytes : Bytes) (directory : ExportDirectory) :
    Except Fault (List (Nat × String)) := do
  if 0 < directory.nameCount ∧ (directory.names = 0 ∨ directory.numbers = 0) then
    throw .inconsistentExports
  let slots ← readRow (readNameSlot bytes directory) directory.nameCount 0
  return slots.filterMap id

/-- The name of a function; of several the last. -/
def nameOf (names : List (Nat × String)) (number : Nat) : Option String :=
  (names.reverse.find? fun named => named.1 == number).map Prod.snd

/-- Reads the function of a number; its slot may be unused. A forwarder that is no name is
passed over. -/
def readExport (bytes : Bytes) (place : Directory) (directory : ExportDirectory)
    (names : List (Nat × String)) (number : Nat) : Except Fault (Option Export) := do
  let rva ← readWord bytes 4 (directory.functions + number * 4)
  if rva = 0 then return none
  let forwarder := if place.contains rva then (readName bytes rva 256).toOption else none
  if 0x100000000 ≤ directory.ordinalBase + number then throw .inconsistentExports
  return some {
    name := nameOf names number
    ordinal := directory.ordinalBase + number
    rva, forwarder }

/-- Reads the exports of an image, at most `limit` of them. -/
def readExports (bytes : Bytes) (place : Directory) (limit : Nat) : Except Fault ExportTable := do
  if !place.isPresent then return .empty
  if bytes.length < place.rva + 40 then throw (.outsideImage place.rva)
  let directory ← readExportDirectory bytes place.rva limit
  let library ←
    if directory.library = 0 then pure none
    else pure (some (← readName bytes directory.library 256))
  let names ← readNames bytes directory
  let slots ← readRow (readExport bytes place directory names) directory.functionCount 0
  return { library, ordinalBase := directory.ordinalBase, entries := slots.filterMap id }

end Landmark.Image
