import Landmark.Fatal
import Landmark.Image.Section

/-! # Segments

A segment is a named run of bytes at an address. A first part of it is defined by the
image; the rest reads as zero. An address belongs to a segment only strictly inside:
neither the first byte nor the address behind the last belongs to it, so neighbours
never claim one address both.
-/

namespace Landmark

/-- A named run of bytes at an address. -/
structure Segment where
  name : String
  base : Nat
  data : Bytes
  permissions : Permissions := .readOnly
  /-- The width of addresses in the image. -/
  bits : Nat := 32
  /-- How many bytes the image defines. -/
  defined : Nat := data.length
  defined_le : defined ≤ data.length := by omega
  deriving DecidableEq

namespace Segment

/-- The segment with `count` bytes defined, or all where it has fewer. -/
def withDefined (segment : Segment) (count : Nat) : Segment :=
  { segment with
    defined := min count segment.data.length
    defined_le := Nat.min_le_right _ _ }

/-- Bytes in the segment. -/
def size (segment : Segment) : Nat := segment.data.length

/-- The address behind the last byte. -/
def stop (segment : Segment) : Nat := segment.base + segment.size

/-- Bytes in a pointer. -/
def pointerSize (segment : Segment) : Nat := Image.pointerSize segment.bits

/-- The part that the image defines, which is the part worth searching. -/
def definedData (segment : Segment) : Bytes := segment.data.take segment.defined

/-- Whether an address lies strictly inside. -/
def contains (segment : Segment) (address : Nat) : Bool :=
  segment.base < address && address - segment.base < segment.size

/-- Fails when an address does not lie strictly inside. -/
def checkBounds (segment : Segment) (address : Nat) : Except Fatal Unit :=
  if segment.contains address then .ok ()
  else .error (.addressOutOfBounds ("segment " ++ segment.name) address)

/-- How far an address lies behind the first, for the addresses of all bytes. -/
def offset? (segment : Segment) (address : Nat) : Option Nat :=
  if segment.base ≤ address ∧ address < segment.stop then some (address - segment.base) else none

/-- The bytes from an address on. -/
def bytesFrom? (segment : Segment) (address : Nat) : Option Bytes :=
  (segment.offset? address).map segment.data.drop

/-- The byte in front of an address. -/
def byteBefore? (segment : Segment) (address : Nat) : Option UInt8 :=
  if address = 0 then none
  else (segment.offset? (address - 1)).bind fun offset => segment.data[offset]?

/-- The pointer stored at an address. -/
def readPointer? (segment : Segment) (address : Nat) : Option Nat :=
  (segment.offset? address).bind fun offset =>
    (Image.readPointer segment.data segment.bits offset).toOption

/-- Name, extent and permissions. -/
def text (segment : Segment) : String :=
  segment.name ++ " [" ++ Hex.address segment.base ++ ".." ++ Hex.address segment.stop ++ ") " ++
    segment.permissions.text

end Segment

end Landmark
