import Landmark.Proofs.Checked.Scan
import Landmark.Proofs.Segment.Compare
import Landmark.Proofs.X86.Readings

/-! # Raw calls as instructions

A scan for calls lists one target for each byte 0xE8 of its window that has four bytes behind it
in the segment, also where these hold another such byte. Whatever it lists is a call where a
disassembler starts there, and leads to the same target: to all of it in 64-bit code, to its low
half in 32-bit code.
-/

namespace Landmark.Segment

open X86 (landing Branch)

variable {segment : Segment} {bytes : Bytes} {start window place : Nat}

/-- A scan goes on where it could have ended. -/
theorem scan_add {α : Type} (read : Bytes → Nat → Option α) (bytes : Bytes)
    (first second place : Nat) :
    scan read bytes (first + second) place =
      scan read bytes first place ++ scan read (bytes.drop first) second (place + first) := by
  induction bytes generalizing first place with
  | nil => simp only [List.drop_nil, scan, List.append_nil]
  | cons byte rest ih =>
    cases first with
    | zero => simp only [scan, Nat.zero_add, Nat.add_zero, List.drop_zero, List.nil_append]
    | succ first =>
      rw [Nat.succ_add, scan, scan, ih, List.drop_succ_cons, Nat.add_assoc, Nat.add_comm 1 first]
      cases read (byte :: rest) place <;> rfl

/-- A byte 0xE8 stands at a place, and the four bytes of a distance behind it. -/
structure CallsAt (bytes : Bytes) (place : Nat) : Prop where
  fits : place + 5 ≤ bytes.length
  opcode : bytes[place]? = some 0xE8

instance : Decidable (CallsAt bytes place) :=
  decidable_of_iff (place + 5 ≤ bytes.length ∧ bytes[place]? = some 0xE8)
    ⟨fun both => ⟨both.1, both.2⟩, fun calls => ⟨calls.fits, calls.opcode⟩⟩

theorem CallsAt.exists_drop_eq (calls : CallsAt bytes place) :
    ∃ a b c d rest, bytes.drop place = [0xE8, a, b, c, d] ++ rest ∧
      bytes.field 4 (place + 1) = Bytes.toNat [a, b, c, d] := by
  obtain ⟨inside, here⟩ := List.getElem?_eq_some_iff.mp calls.opcode
  have fits := calls.fits
  have four : ((bytes.drop (place + 1)).take 4).length = 4 := by
    rw [List.length_take, List.length_drop]
    omega
  obtain ⟨a, b, c, d, distance⟩ := List.length_eq_four.mp four
  refine ⟨a, b, c, d, bytes.drop (place + 5), ?_, congrArg Bytes.toNat distance⟩
  have rest := List.take_append_drop 4 (bytes.drop (place + 1))
  rw [distance, List.drop_drop] at rest
  rw [List.drop_eq_getElem_cons inside, here, ← rest]
  rfl

theorem callAt_drop (bytes : Bytes) (place address : Nat) :
    callAt (bytes.drop place) address =
      if CallsAt bytes place then some (landing (address + 5) (bytes.field 4 (place + 1)))
      else none := by
  split
  next calls =>
    obtain ⟨a, b, c, d, rest, here, distance⟩ := calls.exists_drop_eq
    rw [here, distance, X86.landing_eq (X86.toNat_four_lt a b c d)]
    rfl
  next other =>
    by_cases fits : place + 5 ≤ bytes.length
    · have inside : place < bytes.length := by omega
      rw [List.drop_eq_getElem_cons inside]
      apply Checked.callAt_of_ne
      intro opcode
      exact other ⟨fits, List.getElem?_eq_some_iff.mpr ⟨inside, opcode⟩⟩
    · apply Checked.callAt_short
      rw [List.length_drop]
      omega

theorem value_rawCalls (segment : Segment) (start window : Nat) :
    (segment.rawCalls start window).value =
      if segment.base ≤ start ∧ start < segment.stop then
        scan callAt (segment.onward start) window start
      else [] := by
  unfold rawCalls bytesFrom? offset? onward
  by_cases inside : segment.base ≤ start ∧ start < segment.stop
  · rw [if_pos inside, if_pos inside]
    rfl
  · rw [if_neg inside, if_neg inside]
    rfl

theorem length_onward (above : segment.base ≤ start) :
    (segment.onward start).length = segment.stop - start := by
  unfold onward stop size
  rw [List.length_drop]
  omega

theorem onward_add (above : segment.base ≤ start) (place : Nat) :
    segment.onward (start + place) = (segment.onward start).drop place := by
  unfold onward
  rw [List.drop_drop]
  congr 1
  omega

/-- Where the call leads whose opcode stands `place` bytes behind `start`, by the 64 bits of the
sum. -/
def calledAt (segment : Segment) (start place : Nat) : Nat :=
  landing (start + place + 5) ((segment.onward start).field 4 (place + 1))

/-- What a scan for calls comes to, by places of the byte 0xE8. -/
structure ListsCalls (segment : Segment) : Prop where
  listed : ∀ start window, segment.base ≤ start → start < segment.stop →
    (segment.rawCalls start window).value =
      ((List.range (min window (segment.stop - start))).filter fun place =>
        CallsAt (segment.onward start) place).map (segment.calledAt start)
  added : ∀ start first second, segment.base ≤ start → start + first < segment.stop →
    (segment.rawCalls start (first + second)).value =
      (segment.rawCalls start first).value ++ (segment.rawCalls (start + first) second).value
  /-- No sum goes beyond the last address but the one that is meant to. -/
  machine : segment.stop + 16 < Checked.word → ∀ start window,
    Checked.rawCalls segment start window = .ok (segment.rawCalls start window).value

/-- Where a call is listed a disassembler decodes one, with the same target. Five bytes are enough
for that. -/
structure DecodesCalls [Decoder] (segment : Segment) : Prop where
  wide : segment.bits = 64 → ∀ start place count, segment.base ≤ start → 5 ≤ count →
    CallsAt (segment.onward start) place →
    Branch.call.Decodes segment.bits (start + place) ((segment.onward (start + place)).take count)
      (segment.calledAt start place)
  narrow : segment.bits = 32 → ∀ start place count, segment.base ≤ start → 5 ≤ count →
    CallsAt (segment.onward start) place →
    Branch.call.Decodes segment.bits (start + place) ((segment.onward (start + place)).take count)
      (segment.calledAt start place % 0x100000000)

theorem value_rawCalls_of_inside (above : segment.base ≤ start) (below : start < segment.stop) :
    (segment.rawCalls start window).value =
      ((List.range (min window (segment.stop - start))).filter fun place =>
        CallsAt (segment.onward start) place).map (segment.calledAt start) := by
  rw [value_rawCalls, if_pos ⟨above, below⟩, scan_eq, length_onward above,
    ← List.filterMap_eq_map, List.filterMap_filter]
  apply List.filterMap_congr
  intro place _
  rw [callAt_drop]
  simp only [decide_eq_true_eq]
  rfl

theorem value_rawCalls_add {first : Nat} (above : segment.base ≤ start)
    (below : start + first < segment.stop) (second : Nat) :
    (segment.rawCalls start (first + second)).value =
      (segment.rawCalls start first).value ++ (segment.rawCalls (start + first) second).value := by
  simp only [value_rawCalls]
  rw [if_pos (by omega), if_pos (by omega), if_pos (by omega), scan_add, onward_add above]

theorem CallsAt.lt_stop (above : segment.base ≤ start)
    (calls : CallsAt (segment.onward start) place) : start + place < segment.stop := by
  have fits := calls.fits
  rw [length_onward above] at fits
  omega

theorem listsCalls (segment : Segment) : segment.ListsCalls where
  listed := fun _ _ above below => value_rawCalls_of_inside above below
  added := fun _ _ second above below => value_rawCalls_add above below second
  machine := fun room start window => Checked.rawCalls_eq_of_room (by omega) start window

section Decodes

variable [Decoder] (reads : Branch.call.Reads) (room : segment.stop < Checked.word)
include reads room

theorem decodes_of_callsAt {mode : X86.Mode} {bits count : Nat}
    (known : X86.Mode.ofBits? bits = some mode) (large : mode ≠ .bits16)
    (above : segment.base ≤ start) (enough : 5 ≤ count)
    (calls : CallsAt (segment.onward start) place) :
    Branch.call.Decodes bits (start + place) ((segment.onward (start + place)).take count)
      (segment.calledAt start place % mode.nativeWidth.span) := by
  obtain ⟨a, b, c, d, rest, here, distance⟩ := calls.exists_drop_eq
  have five : ([0xE8, a, b, c, d] : Bytes).length ≤ count := enough
  rw [onward_add above, here, List.take_append, List.take_of_length_le five, calledAt, distance]
  exact reads.decodes known large ((calls.lt_stop above).trans room) a b c d _

theorem decodesCalls : segment.DecodesCalls where
  wide := by
    intro width start place count above enough calls
    have wide : X86.Mode.ofBits? segment.bits = some .bits64 := width ▸ rfl
    have decodes := decodes_of_callsAt reads room wide nofun above enough calls
    rwa [calledAt, X86.landing_mod_wide] at decodes
  narrow := by
    intro width start place count above enough calls
    have narrow : X86.Mode.ofBits? segment.bits = some .bits32 := width ▸ rfl
    have span : X86.Mode.bits32.nativeWidth.span = 0x100000000 := rfl
    rw [← span]
    exact decodes_of_callsAt reads room narrow nofun above enough calls

end Decodes

/-- **The scan for calls agrees with the disassembler**, whatever decoder that has which reads calls
as they are documented. -/
theorem callsAgree [Decoder] (segment : Segment) : segment.ListsCalls ∧
    (Branch.call.Reads → segment.stop < Checked.word → segment.DecodesCalls) :=
  ⟨listsCalls segment, fun reads room => decodesCalls reads room⟩

/-- A call among the bytes of another one's distance. -/
def overlapping : Segment where
  name := ".text"
  base := 0x401000
  data := [0xE8, 0xE8, 0, 0, 0, 0]

theorem overlapping_callsAgree : Branch.call.Reads ∧ overlapping.stop < Checked.word ∧
    (overlapping.rawCalls 0x401000 2).value = [0x4010ED, 0x401006] ∧
    Branch.call.Decodes 32 0x401000 overlapping.data 0x4010ED ∧
    Branch.call.Decodes 32 0x401001 (overlapping.data.drop 1) 0x401006 := by
  have reads := Branch.reads .call
  have room : overlapping.stop < Checked.word := by decide
  obtain ⟨lists, agrees⟩ := callsAgree overlapping
  have decodes := (agrees reads room).narrow rfl 0x401000
  refine ⟨reads, room, ?_, decodes 0 6 (Nat.le_refl _) (by decide) (by decide),
    decodes 1 6 (Nat.le_refl _) (by decide) (by decide)⟩
  exact (lists.listed 0x401000 2 (Nat.le_refl _) (by decide)).trans (by decide)

end Landmark.Segment
