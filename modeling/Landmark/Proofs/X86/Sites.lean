import Landmark.Proofs.Bytes
import Landmark.Proofs.Decoder
import Landmark.X86.Encode
import Mathlib.Data.List.Basic

/-! # The instructions behind the bytes

The bytes that a scan takes for a call or for a compare with zero are the same in 32-bit and in
64-bit code, and in both they stand for an instruction, whatever stands behind them. A call leads
as far from the next instruction as its distance says, around the end of the addresses that the
mode has. A compare names its place outright in 32-bit code. In 64-bit code it names it by the
distance from the next instruction. That a decoder reads them so is assumed of it by name.

What is written by hand is encoded by its distance, cut to 32 bits. In 32-bit code the sum with the
next address is cut to 32 bits as well, so there a branch leads to its target however far that is.
-/

namespace Landmark.X86

variable {bits address next : Nat} {mode : Mode}

/-- Where a distance of 32 bits, which has a sign, leads from the next instruction. -/
def landing (next distance : Nat) : Nat :=
  ((next + Int.bmod distance 0x100000000) % 0x10000000000000000).toNat

theorem landing_mod_wide (next distance : Nat) :
    landing next distance % Mode.bits64.nativeWidth.span = landing next distance := by
  unfold landing Mode.nativeWidth Width.span
  dsimp only
  omega

theorem landing_eq {distance : Nat} (small : distance < 2 ^ 32) :
    landing next distance =
      (next + if distance < 0x80000000 then distance else distance + 0xFFFFFFFF00000000) %
        0x10000000000000000 := by
  unfold landing
  rw [Int.bmod_def]
  split <;> split <;> omega

theorem toNat_four_lt (a b c d : UInt8) : Bytes.toNat [a, b, c, d] < 2 ^ 32 := by
  have small := Bytes.toNat_lt [a, b, c, d]
  simpa only [List.length_cons, List.length_nil, Nat.reduceAdd, Nat.reducePow] using small

/-- In 64-bit code the operand is hardly ever the place: only when the next instruction stands at
the start of the addresses, or 32 bits of address behind it. -/
theorem landing_ne {operand : Nat} (small : operand < 2 ^ 32) (low : next < 2 ^ 64)
    (later : 0 < next) (other : next ≠ 2 ^ 32) : landing next operand ≠ operand := by
  rw [landing_eq small]
  split <;> omega

namespace Encode

theorem length_distance (address length target : Nat) :
    (distance address length target).length = 4 := Bytes.length_ofNat _ _

theorem toNat_distance (address length target : Nat) :
    Bytes.toNat (distance address length target) =
      (target + Width.qword.span - (address + length) % Width.qword.span) % 0x100000000 :=
  Bytes.toNat_ofNat _ _

/-- By 32 bits the distance leads to the target. -/
theorem landing_distance_mod {length target : Nat} (low : target < 2 ^ 32) :
    landing (address + length) (Bytes.toNat (distance address length target)) % 0x100000000 =
      target := by
  rw [toNat_distance]
  generalize address + length = next
  unfold landing Width.span
  dsimp only
  rw [Int.bmod_def]
  split <;> omega

end Encode

/-- The place that an operand of 32 bits names where there is neither base nor index. -/
def named (mode : Mode) (next operand : Nat) : Nat :=
  match mode with
  | .bits64 => landing next operand
  | .bits32 | .bits16 => operand

@[simp] theorem named_bits32 (next operand : Nat) : named .bits32 next operand = operand := by
  rw [named]

@[simp] theorem named_bits64 (next operand : Nat) :
    named .bits64 next operand = landing next operand := by
  rw [named]

/-! ## Branches -/

/-- A near branch with a distance of 32 bits. -/
inductive Branch where
  | call
  | jump
  | jumpIfZero
  deriving DecidableEq

namespace Branch

def opcode : Branch → Bytes
  | call => [0xE8]
  | jump => [0xE9]
  | jumpIfZero => [0x0F, 0x84]

def size : Branch → Nat
  | call | jump => 5
  | jumpIfZero => 6

def mnemonic : Branch → Mnemonic
  | call => .call
  | jump => .jmp
  | jumpIfZero => .jcc .e

def category : Branch → FlowCategory
  | call => .call
  | jump => .unconditional
  | jumpIfZero => .conditional

theorem category_mnemonic (branch : Branch) : branch.mnemonic.category = branch.category := by
  cases branch <;> rfl

def encode (branch : Branch) (address target : Nat) : Bytes :=
  match branch with
  | call => Encode.call address target
  | jump => Encode.jump address target
  | jumpIfZero => Encode.jumpIfZero address target

theorem encode_eq (branch : Branch) (address target : Nat) :
    branch.encode address target = branch.opcode ++ Encode.distance address branch.size target := by
  cases branch <;> rfl

/-- The instruction is this branch, and it leads to the target. -/
structure Leads (branch : Branch) (target : Nat) (whole : Instruction) : Prop where
  length : whole.length = branch.size
  mnemonic : whole.mnemonic = branch.mnemonic
  target : whole.nearTarget? = some target

variable [Decoder]

/-- The decoder reads the branch off its opcode and a distance. In 32-bit code the address it leads
to is cut to 32 bits, as all addresses are. -/
def Reads (branch : Branch) : Prop :=
  ∀ mode, mode ≠ .bits16 → ∀ address, address < 2 ^ 64 → ∀ a b c d rest, ∃ whole,
    Decoder.decode mode address (branch.opcode ++ [a, b, c, d] ++ rest) = .ok whole ∧
      branch.Leads (landing (address + branch.size) (Bytes.toNat [a, b, c, d]) %
        mode.nativeWidth.span) whole

theorem Reads.exists_encode {branch : Branch} (reads : branch.Reads) (large : mode ≠ .bits16)
    (low : address < 2 ^ 64) (target : Nat) (rest : Bytes) :
    ∃ whole, Decoder.decode mode address (branch.encode address target ++ rest) = .ok whole ∧
      branch.Leads (landing (address + branch.size)
        (Bytes.toNat (Encode.distance address branch.size target)) % mode.nativeWidth.span)
          whole := by
  obtain ⟨a, b, c, d, four⟩ := List.length_eq_four.mp (Encode.length_distance address _ target)
  rw [encode_eq, four]
  exact reads mode large address low a b c d rest

/-- A branch of its size is decoded, and it leads to the target. -/
structure Decodes (branch : Branch) (bits address : Nat) (bytes : Bytes) (target : Nat) : Prop where
  decoded : (Disassembler.ofBits bits).decode address bytes = .ok {
    address, length := branch.size, mnemonic := branch.mnemonic, category := branch.category }
  target : (Disassembler.ofBits bits).target? address bytes = some target

theorem decodes_of_leads {branch : Branch} {bytes : Bytes} {target : Nat} {whole : Instruction}
    (read : Decoder.detail bits address bytes = .ok whole) (leads : branch.Leads target whole) :
    branch.Decodes bits address bytes target where
  decoded := by
    rw [Disassembler.ofBits_decode read, Instruction.decoding, leads.length, leads.mnemonic,
      branch.category_mnemonic]
  target := (Disassembler.ofBits_target? read).trans leads.target

/-- A branch is decoded whatever its distance is. -/
theorem Reads.decodes {branch : Branch} (reads : branch.Reads)
    (known : Mode.ofBits? bits = some mode) (large : mode ≠ .bits16) (low : address < 2 ^ 64)
    (a b c d : UInt8) (rest : Bytes) :
    branch.Decodes bits address (branch.opcode ++ [a, b, c, d] ++ rest)
      (landing (address + branch.size) (Bytes.toNat [a, b, c, d]) % mode.nativeWidth.span) := by
  obtain ⟨whole, decoded, leads⟩ := reads mode large address low a b c d rest
  exact decodes_of_leads (Decoder.detail_eq_ok known decoded) leads

end Branch

/-! ## Compares with zero -/

/-- The instruction has seven bytes and compares the place in memory with zero. -/
structure Tests (tested : Nat) (whole : Instruction) : Prop where
  length : whole.length = 7
  compares : whole.comparesMemoryWithZero = true
  displacement : whole.displacement = tested

variable [Decoder]

/-- The decoder reads a compare with zero off its opcode, an operand and the zero. -/
def ReadsCompare : Prop :=
  ∀ mode, mode ≠ .bits16 → ∀ address, address < 2 ^ 64 → ∀ a b c d rest, ∃ whole,
    Decoder.decode mode address ([0x83, 0x3D, a, b, c, d, 0] ++ rest) = .ok whole ∧
      Tests (named mode (address + 7) (Bytes.toNat [a, b, c, d])) whole

/-- A compare of seven bytes is decoded, of the place in memory that is tested with zero. -/
def DecodesTest (bits address : Nat) (bytes : Bytes) (tested : Nat) : Prop :=
  ∃ whole, (Disassembler.ofBits bits).detail address bytes = .ok whole ∧ Tests tested whole

theorem ReadsCompare.decodesTest (reads : ReadsCompare) (known : Mode.ofBits? bits = some mode)
    (large : mode ≠ .bits16) (low : address < 2 ^ 64) (a b c d : UInt8) (rest : Bytes) :
    DecodesTest bits address ([0x83, 0x3D, a, b, c, d, 0] ++ rest)
      (named mode (address + 7) (Bytes.toNat [a, b, c, d])) := by
  obtain ⟨whole, decoded, tests⟩ := reads mode large address low a b c d rest
  exact ⟨whole, Decoder.detail_eq_ok known decoded, tests⟩

end Landmark.X86
