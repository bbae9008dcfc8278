import Landmark.Image.Header

/-! # The section table

Each section has a name of at most eight bytes, an extent in the image and flags that
say what may be done with it.
-/

namespace Landmark

/-- What may be done with memory. -/
structure Permissions where
  read : Bool
  write : Bool
  execute : Bool
  deriving DecidableEq

namespace Permissions

/-- Memory that may only be read. -/
def readOnly : Permissions := { read := true, write := false, execute := false }

/-- The permissions as three letters, a dash for each that is missing. -/
def text (permissions : Permissions) : String :=
  String.ofList [
    if permissions.read then 'r' else '-',
    if permissions.write then 'w' else '-',
    if permissions.execute then 'x' else '-']

end Permissions

namespace Image

/-- An entry of the section table. -/
structure SectionHeader where
  rawName : Bytes
  virtualSize : Nat
  rva : Nat
  rawSize : Nat
  characteristics : Nat
  deriving DecidableEq

namespace SectionHeader

/-- The name, up to its first zero. -/
def name (header : SectionHeader) : String :=
  Text.Utf8.decodeLenient (header.rawName.takeWhile (· ≠ 0))

/-- Bytes the section takes in memory. A section without a size in memory takes its size in
the file. -/
def mappedSize (header : SectionHeader) : Nat :=
  if header.virtualSize = 0 then header.rawSize else header.virtualSize

/-- Whether the flag of weight `weight` is set. -/
def hasFlag (header : SectionHeader) (weight : Nat) : Bool :=
  header.characteristics / weight % 2 == 1

/-- Whether the section holds code. -/
def containsCode (header : SectionHeader) : Bool := header.hasFlag 0x20

/-- Whether the section may be run. -/
def isExecutable (header : SectionHeader) : Bool := header.hasFlag 0x20000000

/-- Whether the section may be read. -/
def isReadable (header : SectionHeader) : Bool := header.hasFlag 0x40000000

/-- Whether the section may be written. -/
def isWritable (header : SectionHeader) : Bool := header.hasFlag 0x80000000

/-- What may be done with the section. One that holds code may be run whatever its flags. -/
def permissions (header : SectionHeader) : Permissions :=
  { read := header.isReadable
    write := header.isWritable
    execute := header.isExecutable || header.containsCode }

end SectionHeader

/-- Bytes of an entry of the section table. -/
def sectionHeaderSize : Nat := 40

/-- Reads the entry at `offset`. -/
def readSectionHeader (bytes : Bytes) (offset : Nat) : Except Fault SectionHeader := do
  return {
    rawName := (bytes.drop offset).take 8
    virtualSize := ← readWord bytes 4 (offset + 8)
    rva := ← readWord bytes 4 (offset + 12)
    rawSize := ← readWord bytes 4 (offset + 16)
    characteristics := ← readWord bytes 4 (offset + 36) }

/-- Reads a section table of `count` entries. -/
def readSections (bytes : Bytes) (offset count : Nat) : Except Fault (List SectionHeader) := do
  require bytes (offset + count * sectionHeaderSize)
  readRow (fun i => readSectionHeader bytes (offset + i * sectionHeaderSize)) count 0

end Image

end Landmark
