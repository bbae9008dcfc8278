import Landmark.Image.Fault
import Landmark.Text.Utf8

/-! # Reads from an image

Every read names the offset at which it failed. A pointer has eight bytes in 64-bit
images and four in all others.
-/

namespace Landmark

namespace Image

/-- The little-endian word of `count` bytes at `offset`. -/
def readWord (bytes : Bytes) (count offset : Nat) : Except Fault Nat :=
  match bytes.word? count offset with
  | some value => .ok value
  | none => .error (.pastEnd offset)

/-- Bytes in a pointer of an image of the given bitness. -/
def pointerSize (bits : Nat) : Nat := if bits = 64 then 8 else 4

/-- The pointer at `offset`. -/
def readPointer (bytes : Bytes) (bits offset : Nat) : Except Fault Nat :=
  readWord bytes (pointerSize bits) offset

/-- The bytes of a pointer; what does not fit is cut off. -/
def pointerBytes (bits value : Nat) : Bytes := Bytes.ofNat (pointerSize bits) value

/-- The text from `offset` up to a zero byte among the next `limit` bytes. -/
def readName (bytes : Bytes) (offset limit : Nat) : Except Fault String :=
  if bytes.length < offset then .error (.pastEnd offset)
  else
    match Bytes.untilNul? ((bytes.drop offset).take limit) with
    | none => .error .badName
    | some name =>
      match Text.Utf8.decode? name with
      | some text => .ok text
      | none => .error .badName

/-- Reads `count` entries of a table from number `first` on, up to the first that fails. -/
def readRow {α : Type} (read : Nat → Except Fault α) : Nat → Nat → Except Fault (List α)
  | 0, _ => .ok []
  | count + 1, first => do
    let entry ← read first
    let later ← readRow read count (first + 1)
    return entry :: later

end Image

end Landmark
