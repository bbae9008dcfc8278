/-! # Byte strings and little-endian words

An image, a segment and a run of code are all lists of bytes. Offsets count from
the head of the list; a word is read little end first. Reads answer `none` when
the bytes asked for are not all there, and writes never change the length.
-/

namespace Landmark

/-- A byte string. -/
abbrev Bytes := List UInt8

namespace Bytes

/-- The number written by a byte string, least significant byte first. -/
def toNat : Bytes → Nat
  | [] => 0
  | b :: rest => b.toNat + 256 * toNat rest

/-- The `count` low bytes of a number, least significant byte first. -/
def ofNat : Nat → Nat → Bytes
  | 0, _ => []
  | count + 1, value => UInt8.ofNat value :: ofNat count (value / 256)

/-- The `count` bytes from `offset` on, when they are all there. -/
def slice? (bytes : Bytes) (offset count : Nat) : Option Bytes :=
  if offset + count ≤ bytes.length then some ((bytes.drop offset).take count) else none

/-- The little-endian word of `count` bytes at `offset`. -/
def word? (bytes : Bytes) (count offset : Nat) : Option Nat :=
  (bytes.slice? offset count).map toNat

/-- Writes `piece` over the bytes from `offset` on; what would stick out is cut off. -/
def overlay (bytes : Bytes) (offset : Nat) (piece : Bytes) : Bytes :=
  bytes.take offset ++ piece.take (bytes.length - offset) ++ bytes.drop (offset + piece.length)

/-- Bytes in front of the first zero byte, when there is one. -/
def untilNul? : Bytes → Option Bytes
  | [] => none
  | b :: rest => if b = 0 then some [] else (untilNul? rest).map (b :: ·)

@[simp] theorem length_ofNat (count value : Nat) : (ofNat count value).length = count := by
  induction count generalizing value with
  | zero => rfl
  | succ count ih => simp [ofNat, ih]

@[simp] theorem length_overlay (bytes : Bytes) (offset : Nat) (piece : Bytes) :
    (bytes.overlay offset piece).length = bytes.length := by
  simp only [overlay, List.length_append, List.length_take, List.length_drop]
  omega

theorem slice?_eq_some_iff {bytes part : Bytes} {offset count : Nat} :
    bytes.slice? offset count = some part ↔
      offset + count ≤ bytes.length ∧ part = (bytes.drop offset).take count := by
  unfold slice?
  split
  · next inside => simp [inside, eq_comm]
  · next outside => simp [outside]

end Bytes

end Landmark
