import Landmark.Proofs.X86.Lines
import Landmark.Proofs.X86.Taken

/-! # What the decoder makes of branches, compares and lines

The decoder that programs are run with reads near branches, compares with zero and the instructions
that are written by hand as they are documented, so all that is assumed of a decoder holds of it.
-/

namespace Landmark.X86

variable {mode : Mode}

/-- A mode without any prefix. -/
def Mode.bare (mode : Mode) : Setting := { mode, prefixes := {} }

theorem signExtend_self (width : Width) (value : Nat) : width.signExtend width value = value := by
  rw [Width.signExtend, Nat.sub_self, Nat.add_zero, ite_self]

/-- Sums that are cut to the addresses of a mode may be cut to all of 64 bits first. -/
theorem target_eq_landing {next distance : Nat} (large : mode ≠ .bits16)
    (small : distance < 2 ^ 32) :
    (next % Width.qword.span + Width.dword.signExtend mode.nativeWidth distance) %
        mode.nativeWidth.span =
      landing next distance % mode.nativeWidth.span := by
  rw [landing_eq small]
  cases mode with
  | bits16 => contradiction
  | bits32 =>
    unfold Width.signExtend Width.span Mode.nativeWidth
    dsimp only
    split <;> omega
  | bits64 =>
    unfold Width.signExtend Width.span Mode.nativeWidth
    dsimp only
    split <;> omega

namespace Branch

/-- A branch as far as `distance` from the next instruction. -/
def body (branch : Branch) (width : Width) (distance : Nat) : Body where
  mnemonic := branch.mnemonic
  operands := fun next =>
    [.nearTarget width ((next + Width.dword.signExtend width distance) % width.span)]

theorem takes (branch : Branch) (large : mode ≠ .bits16) (a b c d : UInt8) (rest : Bytes) :
    scanInstruction mode (branch.opcode ++ [a, b, c, d] ++ rest) =
      .ok ((mode.bare, branch.body mode.nativeWidth (Bytes.toNat [a, b, c, d])), rest) := by
  cases mode with
  | bits16 => contradiction
  | bits32 => cases branch <;> rfl
  | bits64 => cases branch <;> rfl

theorem reads (branch : Branch) : branch.Reads := by
  intro mode large address _ a b c d rest
  have size : (branch.opcode ++ [a, b, c, d]).length = branch.size := by cases branch <;> rfl
  have short : branch.size ≤ maxLength := by cases branch <;> decide
  have decoded := decodeIn_of_takes address rest (size ▸ short) (takes branch large a b c d)
  have target := @target_eq_landing mode (address + branch.size) _ large (toNat_four_lt a b c d)
  refine ⟨_, decoded, size, rfl, ?_⟩
  rw [size, ← target]
  rfl

end Branch

/-- A compare of a place in memory with zero. -/
def compareBody (width : Width) (place : Nat → Nat) : Body where
  mnemonic := .cmp
  operands := fun next =>
    [.memory { width := some .dword, override := none, base := none, index := none
               displacement := place next, addressWidth := width },
      .immediate .byte .dword 0]

theorem readsCompare : ReadsCompare := by
  intro mode large address _ a b c d rest
  have seven : ([0x83, 0x3D, a, b, c, d, 0] : Bytes).length ≤ maxLength :=
    show 7 ≤ maxLength by decide
  cases mode with
  | bits16 => contradiction
  | bits32 =>
    have decoded := @decodeIn_of_takes .bits32 _ (compareBody .dword fun _ =>
      Width.dword.signExtend .dword (Bytes.toNat [a, b, c, d])) _ address rest seven fun _ => rfl
    rw [named_bits32]
    exact ⟨_, decoded, rfl, rfl, signExtend_self .dword _⟩
  | bits64 =>
    have decoded := @decodeIn_of_takes .bits64 _ (compareBody .qword fun next =>
      (next + Width.dword.signExtend .qword (Bytes.toNat [a, b, c, d])) % Width.qword.span) _
      address rest seven fun _ => rfl
    have target := @target_eq_landing .bits64 (address + 7) _ nofun (toNat_four_lt a b c d)
    rw [landing_mod_wide] at target
    refine ⟨_, decoded, rfl, rfl, ?_⟩
    rw [named_bits64, ← target]
    rfl

theorem Plain.reads (plain : Plain) : plain.Reads := by
  intro address _ operands rest fits
  have short : (plain.opcode ++ operands).length ≤ maxLength := by
    rw [List.length_append, fits]
    cases plain <;> decide
  cases plain with
  | nop | pushFrame | popFrame | ret =>
    obtain rfl := List.length_eq_zero_iff.mp fits
    exact ⟨_, decodeIn_of_takes address rest short fun _ => rfl, rfl, rfl, rfl⟩
  | push | load =>
    obtain ⟨a, b, c, d, rfl⟩ := List.length_eq_four.mp fits
    exact ⟨_, decodeIn_of_takes address rest short fun _ => rfl, rfl, rfl, rfl⟩
  | compare =>
    match operands, fits with
    | [a, b, c, d, e], _ =>
      exact ⟨_, decodeIn_of_takes address rest short fun _ => rfl, rfl, rfl, rfl⟩

theorem readsLines : ReadsLines := ⟨Plain.reads, Branch.reads .call, Branch.reads .jumpIfZero⟩

end Landmark.X86
