import Landmark.Log.Traced
import Landmark.Segment.Basic

/-! # Searching a segment

Byte strings are searched in the part of a segment that the image defines, and hits
never overlap: after one the search goes on behind it. Scans for raw calls and raw
compares look at bytes, not at instructions, and so work from any address.
-/

namespace Landmark

open Log

namespace Segment

/-- The offsets at which `needle` occurs in `haystack`, the first byte being at `offset`. After a
hit the bytes of the hit are passed over. -/
def occurrences (needle : Bytes) : (haystack : Bytes) → (offset : Nat) → List Nat
  | [], _ => []
  | byte :: rest, offset =>
    if needle.isPrefixOf (byte :: rest) then
      offset :: occurrences needle (rest.drop (needle.length - 1)) (offset + max needle.length 1)
    else occurrences needle rest (offset + 1)
termination_by haystack => haystack.length
decreasing_by
  · simp only [List.length_drop, List.length_cons]; omega
  · simp

/-- The addresses at which a byte string occurs. The empty string occurs nowhere. -/
def find (segment : Segment) (needle : Bytes) : List Nat :=
  if needle.isEmpty then []
  else (occurrences needle segment.definedData 0).map (segment.base + ·)

/-- The element of a list that has just one. -/
def only? {α : Type} : List α → Option α
  | [one] => some one
  | _ => none

/-- The part of the program that reports on searches. -/
def searchTarget : String := "sigresolve::analysis::search"

/-- The address of a byte string that occurs just once. -/
def findOnly (segment : Segment) (needle : Bytes) : Traced (Option Nat) := do
  let found := segment.find needle
  if (only? found).isNone then
    Traced.emit {
      level := .debug, target := searchTarget, message := "needle is not unique"
      fields := [("segment", .quoted segment.name), ("needle_len", .number needle.length),
        ("matches", .number found.length)] }
  return only? found

/-- The addresses that hold `target` as a pointer. -/
def references (segment : Segment) (target : Nat) : List Nat :=
  segment.find (Image.pointerBytes segment.bits target)

/-- The address that holds `target` as a pointer, when there is just one. -/
def onlyReference (segment : Segment) (target : Nat) : Traced (Option Nat) :=
  segment.findOnly (Image.pointerBytes segment.bits target)

/-- What stands at each of the first `window` places of a byte string, by its own account. -/
def scan {α : Type} (read : Bytes → Nat → Option α) :
    (bytes : Bytes) → (window place : Nat) → List α
  | [], _, _ => []
  | _ :: _, 0, _ => []
  | byte :: rest, window + 1, place =>
    match read (byte :: rest) place with
    | some found => found :: scan read rest window (place + 1)
    | none => scan read rest window (place + 1)

/-- The target of the call whose bytes stand at `place`: its opcode and a distance of 32 bits
from behind it. -/
def callAt (bytes : Bytes) (place : Nat) : Option Nat :=
  match bytes with
  | 0xE8 :: a :: b :: c :: d :: _ =>
    let distance := Bytes.toNat [a, b, c, d]
    let signed := if distance < 0x80000000 then distance else distance + 0xFFFFFFFF00000000
    some ((place + 5 + signed) % 0x10000000000000000)
  | _ => none

/-- The targets of everything that looks like a call in the `window` bytes from `start` on. -/
def rawCalls (segment : Segment) (start window : Nat) : Traced (List Nat) :=
  match segment.bytesFrom? start with
  | none => pure []
  | some bytes => do
    let targets := scan callAt bytes window start
    Traced.emit {
      level := .trace, target := searchTarget, message := "raw call scan"
      fields := [("segment", .quoted segment.name), ("from", .address start),
        ("calls", .number targets.length)] }
    return targets

/-- The address that the bytes at a place compare with zero: the opcode with an address outright
and a number of one byte. -/
def comparedAt (bytes : Bytes) : Option Nat :=
  match bytes with
  | 0x83 :: 0x3D :: a :: b :: c :: d :: 0 :: _ => some (Bytes.toNat [a, b, c, d])
  | _ => none

/-- The addresses that everything that looks like such a compare in the `window` bytes from the
head of `bytes` on names. The two bytes of the opcode lie in the window. -/
def rawCompares (bytes : Bytes) (window : Nat) : List Nat :=
  scan (fun bytes _ => comparedAt bytes) bytes (window - 1) 0

/-- The address compared with zero in the `window` bytes from `start` on, when there is just
one. -/
def onlyRawCompare (segment : Segment) (start window : Nat) : Traced (Option Nat) :=
  match segment.bytesFrom? start with
  | none => pure none
  | some bytes => do
    let found := rawCompares bytes window
    if (only? found).isNone then
      Traced.emit {
        level := .debug, target := searchTarget
        message := "wrong number of cmp [mem], 0 instructions"
        fields := [("from", .address start), ("found", .number found.length)] }
    return only? found

end Segment

end Landmark
