import Landmark.X86.Instruction
import Landmark.X86.Scan

/-! # Prefixes

The mode of the processor and the prefixes of an instruction together fix the
widths of its operands and addresses. Prefixes may be repeated; a register
extension counts only right in front of the opcode.
-/

namespace Landmark.X86

/-- The prefixes that repeat or annotate an instruction. -/
inductive Repetition where
  | equal
  | notEqual
  deriving DecidableEq

/-- The prefixes in front of an opcode. -/
structure Prefixes where
  operandSize : Bool := false
  addressSize : Bool := false
  override : Option SegmentRegister := none
  lock : Bool := false
  /-- The latest of the repetitions, which displaces those before it. -/
  repetition : Option Repetition := none
  /-- The low four bits of the register extension. -/
  extension : Option Nat := none

/-- Takes note of a segment override. In 64-bit mode only the last two segments have a
meaning, and the others do not displace them. -/
def Prefixes.overrideWith (seen : Prefixes) (mode : Mode) (segment : SegmentRegister) : Prefixes :=
  let kept :=
    match mode, segment, seen.override with
    | .bits64, .fs, _ | .bits64, .gs, _ => some segment
    | .bits64, _, some .fs => some .fs
    | .bits64, _, some .gs => some .gs
    | _, _, _ => some segment
  { seen with override := kept, extension := none }

/-- The prefixes after one more byte, when that byte is a prefix. -/
def Prefixes.note? (seen : Prefixes) (mode : Mode) (byte : Nat) : Option Prefixes :=
  match byte with
  | 0x26 => some (seen.overrideWith mode .es)
  | 0x2E => some (seen.overrideWith mode .cs)
  | 0x36 => some (seen.overrideWith mode .ss)
  | 0x3E => some (seen.overrideWith mode .ds)
  | 0x64 => some (seen.overrideWith mode .fs)
  | 0x65 => some (seen.overrideWith mode .gs)
  | 0x66 => some { seen with operandSize := true, extension := none }
  | 0x67 => some { seen with addressSize := true, extension := none }
  | 0xF0 => some { seen with lock := true, extension := none }
  | 0xF2 => some { seen with repetition := some .notEqual, extension := none }
  | 0xF3 => some { seen with repetition := some .equal, extension := none }
  | _ =>
    if mode = .bits64 ∧ byte / 16 = 4 then some { seen with extension := some (byte % 16) }
    else none

/-- Takes the prefixes and the first byte of the opcode. -/
def Prefixes.scan (mode : Mode) (seen : Prefixes) : Scan (Prefixes × Nat) := fun
  | [] => .error .exhausted
  | b :: rest =>
    match seen.note? mode b.toNat with
    | some more => scan mode more rest
    | none => .ok ((seen, b.toNat), rest)

/-- Mode and prefixes of the instruction being decoded. -/
structure Setting where
  mode : Mode
  prefixes : Prefixes

namespace Setting

/-- Whether the register extension has the bit of weight `weight`. -/
def hasExtension (s : Setting) (weight : Nat) : Bool :=
  match s.prefixes.extension with
  | some bits => bits / weight % 2 == 1
  | none => false

/-- The number of a register whose fourth bit is the extension's bit of weight `weight`. -/
def extended (s : Setting) (weight number : Nat) : Nat :=
  if s.hasExtension weight then number + 8 else number

/-- The width of ordinary operands. -/
def operandWidth (s : Setting) : Width :=
  if s.hasExtension 8 then .qword
  else if (s.mode == .bits16) == s.prefixes.operandSize then .dword
  else .word

/-- The width of operands on the stack: whole words in 64-bit mode, unless they are short. -/
def stackWidth (s : Setting) : Width :=
  match s.mode, s.operandWidth with
  | .bits64, .dword => .qword
  | _, width => width

/-- The width of the target of a near branch. -/
def branchWidth (s : Setting) : Width :=
  match s.mode with
  | .bits64 => .qword
  | _ => s.operandWidth

/-- The width of addresses. -/
def addressWidth (s : Setting) : Width :=
  match s.mode, s.prefixes.addressSize with
  | .bits16, false | .bits32, true => .word
  | .bits16, true | .bits32, false | .bits64, true => .dword
  | .bits64, false => .qword

/-- The size of ordinary operands as a listing announces it. -/
def operandMark (s : Setting) : Option Width :=
  s.operandWidth.announced? s.mode.operandWidth

/-- The size of near branches as a listing announces it. -/
def branchMark (s : Setting) : Option Width :=
  s.branchWidth.announced? s.mode.nativeWidth

/-- The size of addresses as a listing announces it. -/
def addressMark (s : Setting) : Option Width :=
  s.addressWidth.announced? s.mode.nativeWidth

/-- The general register of a number at a width. -/
def register (s : Setting) (width : Width) (number : Nat) : Register :=
  if width = .byte ∧ s.prefixes.extension.isNone ∧ 4 ≤ number then
    { width, number := number - 4, upperHalf := true }
  else { width, number }

/-- The segment override that a memory operand with this base shows: the one that differs
from the segment it has anyway. -/
def shownOverride (s : Setting) (base : Option Register) : Option SegmentRegister :=
  match s.prefixes.override with
  | none => none
  | some segment =>
    match s.mode with
    | .bits64 => if segment = .fs ∨ segment = .gs then some segment else none
    | _ =>
      let usual : SegmentRegister :=
        match base with
        | some r => if r.number = 4 ∨ r.number = 5 then .ss else .ds
        | none => .ds
      if segment = usual then none else some segment

end Setting

end Landmark.X86
