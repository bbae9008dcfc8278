import Landmark.Segment.Search
import Mathlib.Data.List.Basic

/-! # What a search comes upon

A byte string that occurs just once is found where it occurs. A scan for raw calls takes
every byte 0xE8 for a call, whether an instruction starts there or not, so each such
byte among the operands adds a call of its own.
-/

namespace Landmark.Segment

open Log

variable {segment : Segment} {needle haystack : Bytes} {address : Nat}

/-! ## Byte strings -/

/-- A byte string occurs at an address, in the part of the segment that the image defines. -/
def OccursAt (segment : Segment) (needle : Bytes) (address : Nat) : Prop :=
  needle ≠ [] ∧ segment.base ≤ address ∧
    needle <+: segment.definedData.drop (address - segment.base)

def OccursOnce (segment : Segment) (needle : Bytes) (address : Nat) : Prop :=
  segment.OccursAt needle address ∧ ∀ other, segment.OccursAt needle other → other = address

theorem occurrences_eq_nil {start : Nat} (absent : ∀ place, ¬needle <+: haystack.drop place) :
    occurrences needle haystack start = [] := by
  fun_induction occurrences needle haystack start with
  | case1 start => rfl
  | case2 byte rest start hit ih =>
    exact absurd (List.isPrefixOf_iff_prefix.mp hit) (absent 0)
  | case3 byte rest start miss ih => exact ih fun place => absent (place + 1)

theorem occurrences_of_once {start place : Nat} (filled : needle ≠ [])
    (here : needle <+: haystack.drop place)
    (once : ∀ other, needle <+: haystack.drop other → other = place) :
    occurrences needle haystack start = [start + place] := by
  fun_induction occurrences needle haystack start generalizing place with
  | case1 start =>
    rw [List.drop_nil] at here
    exact absurd (List.prefix_nil.mp here) filled
  | case2 byte rest start hit ih =>
    -- A hit behind this one would be a second occurrence.
    obtain rfl : 0 = place := once 0 (List.isPrefixOf_iff_prefix.mp hit)
    have positive := List.length_pos_iff.mpr filled
    have none_behind : ∀ further, ¬needle <+: (rest.drop (needle.length - 1)).drop further := by
      intro further again
      have shifted : (byte :: rest).drop (needle.length + further) =
          (rest.drop (needle.length - 1)).drop further := by
        obtain ⟨count, length_eq⟩ := Nat.exists_eq_succ_of_ne_zero (Nat.ne_of_gt positive)
        rw [length_eq, List.drop_drop, Nat.succ_add, List.drop_succ_cons, Nat.succ_sub_one]
      have same := once (needle.length + further) (shifted ▸ again)
      omega
    rw [occurrences_eq_nil none_behind, Nat.add_zero]
  | case3 byte rest start miss ih =>
    cases place with
    | zero => exact absurd (List.isPrefixOf_iff_prefix.mpr here) miss
    | succ place =>
      have found := ih here fun other again => Nat.succ.inj (once (other + 1) again)
      rw [found, Nat.add_assoc, Nat.add_comm 1 place]

theorem find_of_once (once : segment.OccursOnce needle address) :
    segment.find needle = [address] := by
  obtain ⟨⟨filled, above, here⟩, only⟩ := once
  have places : ∀ other, needle <+: segment.definedData.drop other →
      other = address - segment.base := by
    intro other again
    have occurs : segment.OccursAt needle (segment.base + other) :=
      ⟨filled, Nat.le_add_right _ _, by rwa [Nat.add_sub_cancel_left]⟩
    have same := only _ occurs
    omega
  have nonempty : needle.isEmpty = false := by simpa using filled
  rw [find, nonempty, if_neg Bool.false_ne_true, occurrences_of_once filled here places,
    List.map_singleton, Nat.zero_add, Nat.add_sub_cancel' above]

theorem occursOnce_iff :
    segment.OccursOnce needle address ↔ segment.OccursAt needle address ∧
      ∀ place < segment.definedData.length, needle <+: segment.definedData.drop place →
        segment.base + place = address := by
  constructor
  · rintro ⟨here, only⟩
    refine ⟨here, fun place _ again => only _ ?_⟩
    exact ⟨here.1, Nat.le_add_right _ _, by rwa [Nat.add_sub_cancel_left]⟩
  · rintro ⟨here, only⟩
    refine ⟨here, ?_⟩
    rintro other ⟨filled, above, again⟩
    have positive := List.length_pos_iff.mpr filled
    have fits := again.length_le
    rw [List.length_drop] at fits
    have same := only (other - segment.base) (by omega) again
    omega

instance : Decidable (segment.OccursAt needle address) :=
  inferInstanceAs (Decidable (_ ∧ _ ∧ _))

instance : Decidable (segment.OccursOnce needle address) :=
  decidable_of_iff _ occursOnce_iff.symm

/-! ## Scans -/

/-- A scan asks every place of its window. -/
theorem scan_eq {α : Type} (read : Bytes → Nat → Option α) (bytes : Bytes)
    (window place : Nat) :
    scan read bytes window place =
      (List.range (min window bytes.length)).filterMap
        fun i => read (bytes.drop i) (place + i) := by
  induction bytes generalizing window place with
  | nil => rw [scan, List.length_nil, Nat.min_zero, List.range_zero, List.filterMap_nil]
  | cons byte rest ih =>
    cases window with
    | zero => rw [scan, Nat.zero_min, List.range_zero, List.filterMap_nil]
    | succ window =>
      have places : ∀ i, place + 1 + i = place + (i + 1) := by omega
      rw [List.length_cons, Nat.succ_min_succ, List.range_succ_eq_map, List.filterMap_cons,
        List.filterMap_map, scan, ih]
      simp only [places, Function.comp_def, Nat.succ_eq_add_one, List.drop_zero, Nat.add_zero,
        List.drop_succ_cons]
      cases read (byte :: rest) place <;> rfl

/-! ## Raw calls -/

/-- Where a call leads whose next instruction stands at `next`, by the 64 bits of its sum. -/
def reach (next distance : Nat) : Nat :=
  (next + if distance < 0x80000000 then distance else distance + 0xFFFFFFFF00000000) %
    0x10000000000000000

theorem callAt_call {distance rest : Bytes} {place : Nat} (four : distance.length = 4) :
    callAt (0xE8 :: (distance ++ rest)) place =
      some (reach (place + 5) (Bytes.toNat distance)) := by
  obtain ⟨a, b, c, d, rfl⟩ := List.length_eq_four.mp four
  rfl

theorem isSome_callAt (byte : UInt8) (place : Nat) {rest : Bytes} (long : 4 ≤ rest.length) :
    (callAt (byte :: rest) place).isSome = (byte == 0xE8) := by
  by_cases opcode : byte = 0xE8
  · have four : (rest.take 4).length = 4 := by rw [List.length_take, Nat.min_eq_left long]
    rw [opcode, ← List.take_append_drop 4 rest, callAt_call four]
    rfl
  · have none_here : callAt (byte :: rest) place = none := by
      unfold callAt
      split
      · next same => exact absurd (List.cons.inj same).1 opcode
      · rfl
    rw [none_here]
    simpa using opcode

/-- What stands in front adds as many calls as it has bytes 0xE8, and no more. -/
theorem scan_append (front : Bytes) {back : Bytes} (long : 4 ≤ back.length) (window place : Nat) :
    ∃ calls, calls.length = front.count 0xE8 ∧
      scan callAt (front ++ back) (front.length + window) place =
        calls ++ scan callAt back window (place + front.length) := by
  induction front generalizing place with
  | nil => exact ⟨[], rfl, by simp⟩
  | cons byte front ih =>
    obtain ⟨calls, count, behind⟩ := ih (place + 1)
    have room : 4 ≤ (front ++ back).length := by
      rw [List.length_append]
      omega
    have called := isSome_callAt byte place room
    rw [List.length_cons, Nat.succ_add, List.cons_append, scan, behind,
      Nat.add_assoc, Nat.add_comm 1]
    cases found : callAt (byte :: (front ++ back)) place with
    | none =>
      rw [found, Option.isSome_none] at called
      have absent : byte ≠ 0xE8 := beq_eq_false_iff_ne.mp called.symm
      exact ⟨calls, by rw [List.count_cons_of_ne absent, count], rfl⟩
    | some target =>
      rw [found, Option.isSome_some] at called
      have opcode : byte = 0xE8 := beq_iff_eq.mp called.symm
      exact ⟨target :: calls, by rw [opcode, List.count_cons_self, List.length_cons, count], rfl⟩

theorem scan_call {distance rest : Bytes} (four : distance.length = 4) (window place : Nat) :
    scan callAt (0xE8 :: (distance ++ rest)) (window + 1) place =
      reach (place + 5) (Bytes.toNat distance) ::
        scan callAt (distance ++ rest) window (place + 1) := by
  rw [scan, callAt_call four]

end Landmark.Segment
