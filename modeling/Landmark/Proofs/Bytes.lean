import Landmark.Bytes
import Mathlib.Algebra.Group.Nat.Defs

/-! # Byte strings and what is written into them

A number is read back from its bytes as far as they hold it, a byte under a piece that is
written is the piece's, and a text ends at the zero behind it.
-/

namespace Landmark.Bytes

/-- A number is read back as far as its bytes hold it. -/
theorem toNat_ofNat (count value : Nat) : toNat (ofNat count value) = value % 256 ^ count := by
  induction count generalizing value with
  | zero => exact (Nat.mod_one value).symm
  | succ count ih =>
    have byte : (UInt8.ofNat value).toNat = value % 256 := UInt8.toNat_ofNat'
    rw [ofNat, toNat, byte, ih, Nat.pow_succ', Nat.mod_mul]

theorem toNat_lt (bytes : Bytes) : bytes.toNat < 256 ^ bytes.length := by
  induction bytes with
  | nil => exact Nat.one_pos
  | cons byte rest ih =>
    have small := byte.toNat_lt
    rw [toNat, List.length_cons, Nat.pow_succ]
    omega

theorem eq_of_toNat_eq {bytes other : Bytes} (length : bytes.length = other.length)
    (same : bytes.toNat = other.toNat) : bytes = other := by
  induction bytes generalizing other with
  | nil => exact (List.eq_nil_of_length_eq_zero length.symm).symm
  | cons byte rest ih =>
    cases other with
    | nil => cases length
    | cons first later =>
      have small := byte.toNat_lt
      have below := first.toNat_lt
      rw [toNat, toNat] at same
      have head : byte = first := UInt8.toNat_inj.mp (by omega)
      rw [head, ih (Nat.succ.inj length) (by omega)]

theorem toNat_zeros (count : Nat) : toNat (List.replicate count 0) = 0 := by
  induction count with
  | zero => rfl
  | succ count ih => rw [List.replicate_succ, toNat, ih]; rfl

theorem getElem?_overlay {bytes : Bytes} {place : Nat} (offset : Nat) (piece : Bytes)
    (inside : place < bytes.length) :
    (bytes.overlay offset piece)[place]? =
      if offset ≤ place ∧ place < offset + piece.length then piece[place - offset]?
      else bytes[place]? := by
  unfold overlay
  rw [List.append_assoc]
  by_cases before : place < offset
  · rw [List.getElem?_append_left (by rw [List.length_take]; omega),
      List.getElem?_take_of_lt before, if_neg (by omega)]
  have front : (bytes.take offset).length = offset := by
    rw [List.length_take]
    omega
  rw [List.getElem?_append_right (by omega), front]
  by_cases within : place < offset + piece.length
  · rw [List.getElem?_append_left (by rw [List.length_take]; omega),
      List.getElem?_take_of_lt (by omega), if_pos (by omega)]
  · have whole : (piece.take (bytes.length - offset)).length = piece.length := by
      rw [List.length_take]
      omega
    rw [List.getElem?_append_right (by omega), whole, List.getElem?_drop, if_neg (by omega)]
    congr 1
    omega

@[simp] theorem overlay_nil (bytes : Bytes) (offset : Nat) :
    bytes.overlay offset [] = bytes := by
  simp [overlay]

/-- A zero ends a text in which there is none. -/
theorem untilNul?_append {text : Bytes} (plain : 0 ∉ text) (rest : Bytes) :
    untilNul? (text ++ 0 :: rest) = some text := by
  induction text with
  | nil => rfl
  | cons byte later ih =>
    rw [List.mem_cons, not_or] at plain
    rw [List.cons_append, untilNul?, if_neg (fun zero => plain.1 zero.symm), ih plain.2]
    rfl

theorem untilNul?_eq_some_iff {bytes text : Bytes} :
    untilNul? bytes = some text ↔ 0 ∉ text ∧ text ++ [0] <+: bytes := by
  constructor
  · intro found
    induction bytes generalizing text with
    | nil => cases found
    | cons byte rest ih =>
      rw [untilNul?] at found
      split at found
      next zero =>
        obtain rfl := Option.some.inj found
        exact ⟨List.not_mem_nil, rest, by rw [zero]; rfl⟩
      next other =>
        obtain ⟨later, behind, rfl⟩ := Option.map_eq_some_iff.mp found
        obtain ⟨plain, rest_eq⟩ := ih behind
        refine ⟨fun zero => ?_, (List.prefix_cons_inj byte).mpr rest_eq⟩
        cases List.mem_cons.mp zero with
        | inl here => exact other here.symm
        | inr later => exact plain later
  · rintro ⟨plain, rest, rfl⟩
    rw [List.append_assoc]
    exact untilNul?_append plain rest

end Landmark.Bytes
