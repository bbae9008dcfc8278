import Landmark.Image.Read

/-! # Headers of an image

An image begins with a header that holds the offset of the real one. That one opens
with a signature and holds the machine, the number of sections, the optional header
in one of two layouts and the directories. Behind it stands the section table. Only
what an image in memory needs is kept.
-/

namespace Landmark.Image

/-- The first header: its signature and where the next one stands. -/
structure DosHeader where
  magic : Nat
  nextHeader : Nat
  deriving DecidableEq

/-- The machine an image is made for. -/
inductive Machine where
  | i386
  | amd64
  | other (code : Nat)
  deriving DecidableEq

/-- The machine of a code. -/
def Machine.ofCode (code : Nat) : Machine :=
  if code = 0x014C then i386 else if code = 0x8664 then amd64 else other code

/-- The header with the machine and the sizes of what follows. -/
structure FileHeader where
  machine : Machine
  sectionCount : Nat
  timestamp : Nat
  optionalSize : Nat
  characteristics : Nat
  deriving DecidableEq

/-- The two layouts of the optional header. -/
inductive Layout where
  | narrow
  | wide
  deriving DecidableEq

namespace Layout

/-- The number that marks the layout. -/
def magic : Layout → Nat
  | narrow => 0x010B
  | wide => 0x020B

/-- The layout that a number marks. -/
def ofMagic? (magic : Nat) : Option Layout :=
  if magic = 0x010B then some narrow else if magic = 0x020B then some wide else none

/-- Bytes in front of the directories. -/
def fixedSize : Layout → Nat
  | narrow => 96
  | wide => 112

/-- The bitness of the code in an image of this layout. -/
def bits : Layout → Nat
  | narrow => 32
  | wide => 64

end Layout

/-- What both layouts of the optional header tell. -/
structure OptionalHeader where
  layout : Layout
  entryPoint : Nat
  imageBase : Nat
  sectionAlignment : Nat
  imageSize : Nat
  headersSize : Nat
  directoryCount : Nat
  deriving DecidableEq

/-- Where a directory stands in the image, and its size. -/
structure Directory where
  rva : Nat
  size : Nat
  deriving DecidableEq

namespace Directory

/-- The directory of an image that has none. -/
def absent : Directory := { rva := 0, size := 0 }

/-- Whether there is a directory at all. -/
def isPresent (directory : Directory) : Bool := 0 < directory.size && 0 < directory.rva

/-- Whether an offset lies in the directory. -/
def contains (directory : Directory) (rva : Nat) : Bool :=
  directory.rva ≤ rva && rva - directory.rva < directory.size

end Directory

/-- The real header of an image. -/
structure Headers where
  file : FileHeader
  optional : OptionalHeader
  directories : List Directory
  /-- Where the section table stands. -/
  sectionTable : Nat
  deriving DecidableEq

/-- The directory of a number, absent where the header declares fewer. -/
def Headers.directory (headers : Headers) (index : Nat) : Directory :=
  headers.directories.getD index .absent

/-- Fails when the bytes end before `stop`. -/
def require (bytes : Bytes) (stop : Nat) : Except Fault Unit :=
  if stop ≤ bytes.length then .ok ()
  else .error (.truncatedHeader stop bytes.length)

/-- Reads the first header. -/
def readDosHeader (bytes : Bytes) : Except Fault DosHeader := do
  require bytes 64
  let magic ← readWord bytes 2 0
  if magic = 0x5A4D then
    return { magic, nextHeader := ← readWord bytes 4 60 }
  else
    throw .missingDosSignature

/-- Reads the header with the machine. -/
def readFileHeader (bytes : Bytes) (offset : Nat) : Except Fault FileHeader := do
  require bytes (offset + 20)
  return {
    machine := .ofCode (← readWord bytes 2 offset)
    sectionCount := ← readWord bytes 2 (offset + 2)
    timestamp := ← readWord bytes 4 (offset + 4)
    optionalSize := ← readWord bytes 2 (offset + 16)
    characteristics := ← readWord bytes 2 (offset + 18) }

/-- The image base, which the wide layout writes longer and earlier. -/
def readImageBase (bytes : Bytes) (layout : Layout) (offset : Nat) : Except Fault Nat :=
  match layout with
  | .narrow => readWord bytes 4 (offset + 28)
  | .wide => readWord bytes 8 (offset + 24)

/-- Reads an optional header of `size` bytes. The number of directories is its last field in
front of them. -/
def readOptionalHeader (bytes : Bytes) (offset size : Nat) : Except Fault OptionalHeader := do
  require bytes (offset + size)
  if size < 2 then throw (.truncatedHeader 2 size)
  let magic ← readWord bytes 2 offset
  match Layout.ofMagic? magic with
  | none => throw (.unknownMagic magic)
  | some layout =>
    if size < layout.fixedSize then throw (.truncatedHeader layout.fixedSize size)
    return {
      layout
      imageBase := ← readImageBase bytes layout offset
      entryPoint := ← readWord bytes 4 (offset + 16)
      sectionAlignment := ← readWord bytes 4 (offset + 32)
      imageSize := ← readWord bytes 4 (offset + 56)
      headersSize := ← readWord bytes 4 (offset + 60)
      directoryCount := ← readWord bytes 4 (offset + layout.fixedSize - 4) }

/-- The most directories an image has. -/
def maxDirectories : Nat := 16

/-- Reads the directory at `offset`. -/
def readDirectory (bytes : Bytes) (offset : Nat) : Except Fault Directory := do
  return { rva := ← readWord bytes 4 offset, size := ← readWord bytes 4 (offset + 4) }

/-- Reads `count` directories, sixteen at most; those not declared are absent. -/
def readDirectories (bytes : Bytes) (offset count : Nat) : Except Fault (List Directory) := do
  let declared := min maxDirectories count
  let found ← readRow (fun slot => readDirectory bytes (offset + slot * 8)) declared 0
  return found ++ List.replicate (maxDirectories - declared) .absent

/-- The signature of the real header: `PE` and two zeros. -/
def peSignature : Bytes := [0x50, 0x45, 0, 0]

/-- Reads the real header at `offset`. -/
def readHeaders (bytes : Bytes) (offset : Nat) : Except Fault Headers := do
  require bytes (offset + 4)
  if bytes.slice? offset 4 ≠ some peSignature then throw .missingPeSignature
  let file ← readFileHeader bytes (offset + 4)
  let optional ← readOptionalHeader bytes (offset + 24) file.optionalSize
  let directories ←
    readDirectories bytes (offset + 24 + optional.layout.fixedSize) optional.directoryCount
  return { file, optional, directories, sectionTable := offset + 24 + file.optionalSize }

end Landmark.Image
