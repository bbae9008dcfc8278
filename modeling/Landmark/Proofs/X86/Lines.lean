import Landmark.Proofs.X86.Sites

/-! # Lines of code

A line is an instruction as it is written by hand, in 32-bit code. By a decoder that reads the few
opcodes in use it is decoded as what was written, whatever stands behind it, and a branch leads
where it was meant to.
-/

namespace Landmark.X86

/-- The instructions besides branches. -/
inductive Plain where
  | nop
  | pushFrame
  | popFrame
  | push
  | load
  | compare
  | ret
  deriving DecidableEq

namespace Plain

def opcode : Plain → Bytes
  | nop => [0x90]
  | pushFrame => [0x55]
  | popFrame => [0x5D]
  | push => [0x68]
  | load => [0xA1]
  | compare => [0x83, 0x3D]
  | ret => [0xC3]

/-- How many bytes of operands stand behind the opcode. -/
def room : Plain → Nat
  | nop | pushFrame | popFrame | ret => 0
  | push | load => 4
  | compare => 5

def mnemonic : Plain → Mnemonic
  | nop => .nop
  | pushFrame | push => .push
  | popFrame => .pop
  | load => .mov
  | compare => .cmp
  | ret => .ret

end Plain

/-- An instruction that runs on, as it is written. -/
inductive Line where
  | nop
  | pushFrame
  | popFrame
  | push (value : Nat)
  | load (address : Nat)
  | compare (address value : Nat)
  | call (target : Nat)
  | jumpIfZero (target : Nat)
  deriving DecidableEq

namespace Line

def encode (line : Line) (address : Nat) : Bytes :=
  match line with
  | nop => [Encode.nop]
  | pushFrame => [Encode.pushFrame]
  | popFrame => [Encode.popFrame]
  | push value => Encode.push value
  | load place => Encode.load place
  | compare place value => Encode.compare place value
  | call target => Encode.call address target
  | jumpIfZero target => Encode.jumpIfZero address target

/-- How many bytes a line takes, wherever it stands. -/
def size : Line → Nat
  | nop | pushFrame | popFrame => 1
  | push _ | load _ | call _ => 5
  | jumpIfZero _ => 6
  | compare _ _ => 7

def mnemonic : Line → Mnemonic
  | nop => .nop
  | pushFrame | push _ => .push
  | popFrame => .pop
  | load _ => .mov
  | compare _ _ => .cmp
  | call _ => .call
  | jumpIfZero _ => .jcc .e

/-- Where a line can lead besides the next. -/
def target? : Line → Option Nat
  | call target | jumpIfZero target => some target
  | _ => none

def callee? : Line → Option Nat
  | call target => some target
  | _ => none

@[simp] theorem length_encode (line : Line) (address : Nat) :
    (line.encode address).length = line.size := by
  cases line <;> rfl

theorem size_pos (line : Line) : 0 < line.size := by
  unfold size
  split <;> decide

theorem encode_ne_nil (line : Line) (address : Nat) : line.encode address ≠ [] := by
  rw [← List.length_pos_iff, length_encode]
  exact line.size_pos

theorem size_le (line : Line) : line.size ≤ maxLength := by
  unfold size
  split <;> decide

theorem fallsThrough (line : Line) : line.mnemonic.category.fallsThrough = true := by
  cases line <;> rfl

def decoding (line : Line) (address : Nat) : Decoding :=
  { address, length := line.size, mnemonic := line.mnemonic, category := line.mnemonic.category }

end Line

variable [Decoder] {address : Nat}

/-- The decoder reads the instruction off its opcode, whatever its operands are. -/
def Plain.Reads (plain : Plain) : Prop :=
  ∀ address, address < 2 ^ 64 → ∀ operands rest, operands.length = plain.room → ∃ whole,
    Decoder.decode .bits32 address (plain.opcode ++ operands ++ rest) = .ok whole ∧
      whole.length = (plain.opcode ++ operands).length ∧ whole.mnemonic = plain.mnemonic ∧
      whole.nearTarget? = none

/-- The decoder reads what is written by hand in 32-bit code. -/
structure ReadsLines : Prop where
  plain : ∀ plain : Plain, plain.Reads
  call : Branch.call.Reads
  jumpIfZero : Branch.jumpIfZero.Reads

namespace ReadsLines

/-- An instruction is decoded as what was written. -/
structure Decodes (address : Nat) (bytes : Bytes) (decoding : Decoding) (target : Option Nat) :
    Prop where
  decode : (Disassembler.ofBits 32).decode address bytes = .ok decoding
  target? : (Disassembler.ofBits 32).target? address bytes = target

theorem decodes_plain (reads : ReadsLines) (low : address < 2 ^ 64) (plain : Plain)
    {operands : Bytes} (fits : operands.length = plain.room) (rest : Bytes) :
    Decodes address (plain.opcode ++ operands ++ rest) {
      address
      length := (plain.opcode ++ operands).length
      mnemonic := plain.mnemonic
      category := plain.mnemonic.category } none := by
  obtain ⟨whole, decoded, length, mnemonic, straight⟩ :=
    reads.plain plain address low operands rest fits
  have read := @Decoder.detail_eq_ok _ 32 _ _ _ _ rfl decoded
  refine ⟨?_, (Disassembler.ofBits_target? read).trans straight⟩
  rw [Disassembler.ofBits_decode read, Instruction.decoding, length, mnemonic]

theorem decodes_branch {branch : Branch} (reads : branch.Reads) (low : address < 2 ^ 64)
    {target : Nat} (within : target < 2 ^ 32) (rest : Bytes) :
    Decodes address (branch.encode address target ++ rest) {
      address, length := branch.size, mnemonic := branch.mnemonic, category := branch.category }
      (some target) := by
  obtain ⟨whole, decoded, leads⟩ := reads.exists_encode (show Mode.bits32 ≠ .bits16 by decide) low
    target rest
  have narrow : Mode.bits32.nativeWidth.span = 0x100000000 := rfl
  rw [narrow, Encode.landing_distance_mod within] at leads
  have read := @Decoder.detail_eq_ok _ 32 _ _ _ _ rfl decoded
  obtain ⟨decoded, there⟩ := Branch.decodes_of_leads read leads
  exact ⟨decoded, there⟩

/-- A line is decoded as what was written. -/
theorem decodes_line (reads : ReadsLines) (line : Line) (low : address < 2 ^ 64)
    (within : ∀ target, line.target? = some target → target < 2 ^ 32) (rest : Bytes) :
    Decodes address (line.encode address ++ rest) (line.decoding address) line.target? := by
  cases line with
  | nop => exact reads.decodes_plain low .nop rfl rest
  | pushFrame => exact reads.decodes_plain low .pushFrame rfl rest
  | popFrame => exact reads.decodes_plain low .popFrame rfl rest
  | push value => exact reads.decodes_plain low .push rfl rest
  | load place => exact reads.decodes_plain low .load rfl rest
  | compare place value => exact reads.decodes_plain low .compare rfl rest
  | call target => exact decodes_branch reads.call low (within target rfl) rest
  | jumpIfZero target => exact decodes_branch reads.jumpIfZero low (within target rfl) rest

theorem decodes_ret (reads : ReadsLines) (low : address < 2 ^ 64) (rest : Bytes) :
    Decodes address ([Encode.ret] ++ rest)
      { address, length := 1, mnemonic := .ret, category := .return } none :=
  reads.decodes_plain low .ret rfl rest

end ReadsLines

end Landmark.X86
