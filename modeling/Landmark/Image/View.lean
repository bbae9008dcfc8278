import Landmark.Image.Export
import Landmark.Image.Section

/-! # Images in memory

An image in memory is its bytes and the address of the first. The size of one that
is mapped already is read from its first page alone.
-/

namespace Landmark.Image

/-- An image at an address. -/
structure View where
  base : Nat
  bytes : Bytes

namespace View

/-- The address behind the last byte. -/
def stop (view : View) : Nat := view.base + view.bytes.length

/-- The bytes of an extent, when it lies in the image. -/
def slice? (view : View) (rva count : Nat) : Option Bytes := view.bytes.slice? rva count

end View

/-- The headers and the section table of an image. -/
structure Outline where
  headers : Headers
  sections : List SectionHeader

/-- Reads what follows the first header. -/
def readOutline (bytes : Bytes) (dos : DosHeader) : Except Fault Outline := do
  let headers ← readHeaders bytes dos.nextHeader
  let sections ← readSections bytes headers.sectionTable headers.file.sectionCount
  return { headers, sections }

/-- Bytes of a page, the part of an image that is always mapped. -/
def pageSize : Nat := 0x1000

/-- Why the image that is mapped already could not be used. -/
inductive MappedFault where
  /-- The first page holds no signature where it should. -/
  | noSignature (offset : Nat)
  | unreadable (fault : Fault)
  deriving DecidableEq

def MappedFault.message : MappedFault → String
  | noSignature offset => "no PE signature at header offset " ++ Hex.address offset
  | unreadable fault => fault.message

/-- The size of a mapped image, from its first page: never less than that page. -/
def mappedSize (area : Bytes) : Except MappedFault Nat := do
  let page : Bytes := area.take pageSize
  let offset ← (readWord page 4 60).mapError .unreadable
  if page.slice? offset 4 ≠ some peSignature then throw (.noSignature offset)
  let size ← (readWord page 2 (offset + 20)).mapError .unreadable
  let optional ← (readOptionalHeader page (offset + 24) size).mapError .unreadable
  return max optional.imageSize pageSize

/-- The image mapped at `base`, of which `area` holds at least the bytes that its header asks
for. -/
def ofMapped (base : Nat) (area : Bytes) : Except MappedFault View := do
  let size ← mappedSize area
  return { base, bytes := area.take size }

end Landmark.Image
