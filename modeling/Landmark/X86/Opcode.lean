import Landmark.X86.Place

/-! # The repertoire of opcodes

What follows an opcode, for the integer instructions that compilers put into
ordinary functions: arithmetic, moves, stack, branches and their relatives. Any
other opcode starts no instruction here.
-/

namespace Landmark.X86

/-- How an instruction that writes to memory takes part in locking. -/
inductive Locking where
  /-- It takes no part. -/
  | never
  /-- It can end an elided lock without being indivisible. -/
  | release
  /-- It can be made indivisible, and an elided lock can then start or end with it. -/
  | indivisible
  deriving DecidableEq

/-- An instruction as its opcode and what follows describe it, prefixes apart. -/
structure Body where
  mnemonic : Mnemonic
  /-- The operands, given the address of the next instruction. -/
  operands : Nat → List Operand := fun _ => []
  reach : Reach := .near
  /-- The operand size to announce, where the operands do not tell. -/
  operandMark : Option Width := none
  /-- The address size to announce, where the operands do not tell. -/
  addressMark : Option Width := none
  locking : Locking := .never

namespace Body

/-- An instruction with one operand. -/
def unary (mnemonic : Mnemonic) (operand : Form) : Body :=
  { mnemonic, operands := fun next => [operand next] }

/-- An instruction with two operands. -/
def binary (mnemonic : Mnemonic) (first second : Form) : Body :=
  { mnemonic, operands := fun next => [first next, second next] }

/-- An instruction with three operands. -/
def ternary (mnemonic : Mnemonic) (first second third : Form) : Body :=
  { mnemonic, operands := fun next => [first next, second next, third next] }

/-- The same instruction, taking part in locking. -/
def withLocking (body : Body) (locking : Locking) : Body :=
  { body with locking }

end Body

/-- The arithmetic instructions in the order of their encoding. -/
def arithmeticMnemonics : List Mnemonic := [.add, .or, .adc, .sbb, .and, .sub, .xor, .cmp]

/-- The arithmetic instruction of a number below 8. -/
def arithmetic (number : Nat) : Mnemonic := arithmeticMnemonics.getD number .cmp

namespace Setting

/-- The width that the lowest bit of many opcodes selects. -/
def opcodeWidth (s : Setting) (opcode : Nat) : Width :=
  if opcode % 2 = 0 then .byte else s.operandWidth

/-- How an arithmetic instruction takes part in locking: a comparison writes nothing. -/
def arithmeticLocking (mnemonic : Mnemonic) : Locking :=
  if mnemonic = .cmp then .never else .indivisible

/-- A register and a register or place, in the order that the opcode's second bit selects. -/
def scanPair (s : Setting) (mnemonic : Mnemonic) (opcode : Nat) : Scan Body := do
  let width := s.opcodeWidth opcode
  let selector ← Selector.scan
  let other ← s.operand selector width
  let field := s.fieldRegister selector width
  if opcode / 2 % 2 = 0 then pure (.binary mnemonic other field)
  else pure (.binary mnemonic field other)

/-- The arithmetic opcodes below 40h. -/
def scanArithmetic (s : Setting) (opcode : Nat) : Scan Body := do
  let mnemonic := arithmetic (opcode / 8)
  match opcode % 8 with
  | 4 => return .binary mnemonic (s.accumulator .byte) (← immediate .byte .byte)
  | 5 =>
    return .binary mnemonic (s.accumulator s.operandWidth) (← wideImmediate s.operandWidth)
  | 6 | 7 => Scan.unassigned
  | form => return (← s.scanPair mnemonic form).withLocking (arithmeticLocking mnemonic)

/-- Arithmetic with a number: 80h, 81h and 83h. -/
def scanArithmeticImmediate (s : Setting) (opcode : Nat) : Scan Body := do
  let width := s.opcodeWidth opcode
  let selector ← Selector.scan
  let mnemonic := arithmetic selector.field
  let operand ← s.operand selector width
  let value ← if opcode = 0x83 then immediate .byte width else wideImmediate width
  return (Body.binary mnemonic operand value).withLocking (arithmeticLocking mnemonic)

/-- A shift of a register or place by the amount that follows. -/
def scanShift (s : Setting) (opcode : Nat) (amount : Scan Form) : Scan Body := do
  let selector ← Selector.scan
  let operand ← s.operand selector (s.opcodeWidth opcode)
  return .binary (shiftMnemonics.getD selector.field .sar) operand (← amount)

/-- Takes the target of a near branch, encoded in one byte when `short`. -/
def nearTarget (s : Setting) (short : Bool) : Scan Form := do
  let width := s.branchWidth
  let distance ←
    if short then Scan.signed .byte width
    else if width = .word then Scan.number 2
    else Scan.signed .dword width
  return fun next => .nearTarget width ((next + distance) % width.span)

/-- A near branch. -/
def scanBranch (s : Setting) (mnemonic : Mnemonic) (short : Bool) : Scan Body := do
  let target ← s.nearTarget short
  return { mnemonic, operands := fun next => [target next]
           reach := if short then .short else .near
           operandMark := s.branchMark }

/-- The loops and the jump on an empty counter: E0h to E3h. The counter is as wide as
addresses; a jump names it, and a loop announces an unusual one. -/
def scanLoop (s : Setting) (opcode : Nat) : Scan Body := do
  let target ← s.nearTarget true
  let mnemonic : Mnemonic :=
    match opcode, s.addressWidth with
    | 0xE0, _ => .loopne
    | 0xE1, _ => .loope
    | 0xE2, _ => .loop
    | _, .qword => .jrcxz
    | _, .dword => .jecxz
    | _, _ => .jcxz
  return { mnemonic, operands := fun next => [target next]
           operandMark := s.branchMark
           addressMark := if opcode = 0xE3 then none else s.addressMark }

/-- A direct far branch, which 64-bit mode does not have. -/
def scanFar (s : Setting) (mnemonic : Mnemonic) : Scan Body := do
  if s.mode = .bits64 then
    Scan.unassigned
  else
    let offset ← Scan.number s.operandWidth.bytes
    let selector ← Scan.number 2
    return { mnemonic, operands := fun _ => [.farTarget s.operandWidth selector offset]
             reach := .far, operandMark := s.operandMark }

/-- A return, with the number of bytes to drop when `drops`. A near one is as wide as a near
branch, a far one as ordinary operands. -/
def scanReturn (s : Setting) (far drops : Bool) : Scan Body := do
  let body : Body :=
    if far then { mnemonic := .retf, reach := .far, operandMark := s.operandMark }
    else { mnemonic := .ret, operandMark := s.branchMark }
  if drops then
    let count ← immediate .word .word
    return { body with operands := fun next => [count next] }
  else
    return body

/-- A push of a number, encoded in one byte when `short`. -/
def scanPushImmediate (s : Setting) (short : Bool) : Scan Body := do
  let width := s.stackWidth
  let value ← if short then immediate .byte width else wideImmediate width
  return { mnemonic := .push, operands := fun next => [value next]
           operandMark := width.announced? s.mode.nativeWidth }

/-- A move between the accumulator and an address outright: A0h to A3h. -/
def scanMoveOutright (s : Setting) (opcode : Nat) : Scan Body := do
  let width := s.opcodeWidth opcode
  let address ← Scan.number s.addressWidth.bytes
  let place : Form := fun _ => .memory (s.placeAt (some width) none none address)
  let body :=
    if opcode < 0xA2 then Body.binary .mov (s.accumulator width) place
    else Body.binary .mov place (s.accumulator width)
  return { body with addressMark := s.addressMark }

/-- A move of a number into a register or place, or the start of a transaction: C6h and C7h.
The target of the latter is as wide as the mode has it, whatever the width of the distance. -/
def scanMoveImmediate (s : Setting) (opcode : Nat) : Scan Body := do
  let width := s.opcodeWidth opcode
  let selector ← Selector.scan
  if selector.field = 0 then
    let operand ← s.operand selector width
    return (Body.binary .mov operand (← wideImmediate width)).withLocking .release
  else if opcode = 0xC7 ∧ selector.isRegister ∧ selector.field = 7 ∧ selector.target = 0 then
    let wide : Width := if s.mode = .bits64 then .qword else .dword
    let encoded : Width := if s.operandWidth = .word then .word else .dword
    let distance ← Scan.signed encoded wide
    return .unary .xbegin fun next => .nearTarget wide ((next + distance) % wide.span)
  else
    Scan.undefined

/-- Tests, complements and products: F6h and F7h. -/
def scanUnary (s : Setting) (opcode : Nat) : Scan Body := do
  let width := s.opcodeWidth opcode
  let selector ← Selector.scan
  let operand ← s.operand selector width
  match selector.field with
  | 0 | 1 => return .binary .test operand (← wideImmediate width)
  | 2 => return (Body.unary .not operand).withLocking .indivisible
  | 3 => return (Body.unary .neg operand).withLocking .indivisible
  | 4 => return .unary .mul operand
  | 5 => return .unary .imul operand
  | 6 => return .unary .div operand
  | _ => return .unary .idiv operand

/-- Steps by one, indirect branches and pushes from memory: FEh and FFh. -/
def scanStep (s : Setting) (opcode : Nat) : Scan Body := do
  let selector ← Selector.scan
  let step (mnemonic : Mnemonic) : Scan Body := do
    let operand ← s.operand selector (s.opcodeWidth opcode)
    return (Body.unary mnemonic operand).withLocking .indivisible
  match opcode, selector.field with
  | _, 0 => step .inc
  | _, 1 => step .dec
  | 0xFF, 2 => return .unary .call (← s.operand selector s.branchWidth)
  | 0xFF, 4 => return .unary .jmp (← s.operand selector s.branchWidth)
  | 0xFF, 6 => return .unary .push (← s.operand selector s.stackWidth)
  | _, _ => Scan.undefined

/-- No operation, and the exchange with the accumulator that shares its opcode. -/
def scanNop (s : Setting) : Body :=
  let width := s.operandWidth
  if s.prefixes.repetition = some .equal then { mnemonic := .pause }
  else if s.hasExtension 1 then
    .binary .xchg (s.opcodeRegister 0 width) (s.accumulator width)
  else if s.prefixes.operandSize ∨ width = .qword then
    .binary .nop (s.accumulator width) (s.accumulator width)
  else { mnemonic := .nop }

/-- A move that widens a register or place of width `source`. -/
def scanWiden (s : Setting) (mnemonic : Mnemonic) (source : Width) : Scan Body := do
  let selector ← Selector.scan
  let operand ← s.operand selector source
  return .binary mnemonic (s.fieldRegister selector s.operandWidth) operand

/-- The opcodes behind 0Fh. -/
def scanExtended (s : Setting) : Scan Body := do
  let opcode ← Scan.byte
  if opcode / 16 = 8 then
    s.scanBranch (.jcc (.ofOpcode opcode)) false
  else
    match opcode with
    | 0x0B => return { mnemonic := .ud2 }
    | 0x1F =>
      let selector ← Selector.scan
      if selector.field = 0 then
        return .unary .nop (← s.unsizedOperand selector s.operandWidth)
      else Scan.undefined
    | 0xAF =>
      let selector ← Selector.scan
      let operand ← s.operand selector s.operandWidth
      return .binary .imul (s.fieldRegister selector s.operandWidth) operand
    | 0xB6 => s.scanWiden .movzx .byte
    | 0xB7 => s.scanWiden .movzx .word
    | 0xBE => s.scanWiden .movsx .byte
    | 0xBF => s.scanWiden .movsx .word
    | _ => Scan.unassigned

/-- The opcodes from 40h on that stand alone or open a group. -/
def scanSingle (s : Setting) (opcode : Nat) : Scan Body := do
  match opcode with
  | 0x63 =>
    if s.mode = .bits64 then
      s.scanWiden .movsxd (if s.operandWidth = .word then .word else .dword)
    else Scan.unassigned
  | 0x68 => s.scanPushImmediate false
  | 0x69 =>
    let selector ← Selector.scan
    let operand ← s.operand selector s.operandWidth
    return .ternary .imul (s.fieldRegister selector s.operandWidth) operand
      (← wideImmediate s.operandWidth)
  | 0x6A => s.scanPushImmediate true
  | 0x6B =>
    let selector ← Selector.scan
    let operand ← s.operand selector s.operandWidth
    return .ternary .imul (s.fieldRegister selector s.operandWidth) operand
      (← immediate .byte s.operandWidth)
  | 0x80 | 0x81 | 0x83 => s.scanArithmeticImmediate opcode
  | 0x84 | 0x85 => s.scanPair .test opcode
  | 0x88 | 0x89 | 0x8A | 0x8B => return (← s.scanPair .mov opcode).withLocking .release
  | 0x8D =>
    let selector ← Selector.scan
    if selector.isRegister then Scan.undefined
    else
      return .binary .lea (s.fieldRegister selector s.operandWidth) (← s.addressOperand selector)
  | 0x8F =>
    let selector ← Selector.scan
    if selector.field = 0 then return .unary .pop (← s.operand selector s.stackWidth)
    else Scan.undefined
  | 0x90 => return s.scanNop
  | 0x99 =>
    match s.operandWidth with
    | .qword => return { mnemonic := .cqo }
    | .dword => return { mnemonic := .cdq }
    | _ => return { mnemonic := .cwd }
  | 0x9A => s.scanFar .call
  | 0xA0 | 0xA1 | 0xA2 | 0xA3 => s.scanMoveOutright opcode
  | 0xA8 => return .binary .test (s.accumulator .byte) (← immediate .byte .byte)
  | 0xA9 =>
    return .binary .test (s.accumulator s.operandWidth) (← wideImmediate s.operandWidth)
  | 0xC0 | 0xC1 => s.scanShift opcode (immediate .byte .byte)
  | 0xC2 => s.scanReturn false true
  | 0xC3 => s.scanReturn false false
  | 0xC6 | 0xC7 => s.scanMoveImmediate opcode
  | 0xCA => s.scanReturn true true
  | 0xCB => s.scanReturn true false
  | 0xCC => return { mnemonic := .int3 }
  | 0xCD => return .unary .int (← immediate .byte .byte)
  | 0xCF =>
    match s.operandWidth with
    | .qword => return { mnemonic := .iretq }
    | .dword => return { mnemonic := .iretd }
    | _ => return { mnemonic := .iret }
  | 0xD0 | 0xD1 => s.scanShift opcode (pure fun _ => .immediate .byte .byte 1)
  | 0xD2 | 0xD3 => s.scanShift opcode (pure fun _ => .register { width := .byte, number := 1 })
  | 0xE0 | 0xE1 | 0xE2 | 0xE3 => s.scanLoop opcode
  | 0xE8 => s.scanBranch .call false
  | 0xE9 => s.scanBranch .jmp false
  | 0xEA => s.scanFar .jmp
  | 0xEB => s.scanBranch .jmp true
  | 0xF4 => return { mnemonic := .hlt }
  | 0xF6 | 0xF7 => s.scanUnary opcode
  | 0xFE | 0xFF => s.scanStep opcode
  | _ => Scan.unassigned

/-- What follows an opcode, the opcode's first byte being taken already. -/
def scanBody (s : Setting) (opcode : Nat) : Scan Body := do
  if opcode = 0x0F then s.scanExtended
  else if opcode < 0x40 then s.scanArithmetic opcode
  else
    match opcode / 8 with
    | 0x08 => return .unary .inc (s.opcodeRegister opcode s.operandWidth)
    | 0x09 => return .unary .dec (s.opcodeRegister opcode s.operandWidth)
    | 0x0A => return .unary .push (s.opcodeRegister opcode s.stackWidth)
    | 0x0B => return .unary .pop (s.opcodeRegister opcode s.stackWidth)
    | 0x0E | 0x0F => s.scanBranch (.jcc (.ofOpcode opcode)) true
    | 0x16 => return .binary .mov (s.opcodeRegister opcode .byte) (← immediate .byte .byte)
    | 0x17 =>
      let width := s.operandWidth
      return .binary .mov (s.opcodeRegister opcode width) (← immediate width width)
    | _ => s.scanSingle opcode

end Setting

end Landmark.X86
