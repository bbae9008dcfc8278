import Landmark.X86.Register

/-! # Instructions

A decoded instruction names its mnemonic, its operands in order and the marks that
its prefixes leave in a listing. The mnemonic alone decides how the instruction
affects the flow of control; a direct near branch carries the address it goes to.
-/

namespace Landmark

/-- How an instruction affects the flow of control. -/
inductive FlowCategory where
  /-- Runs on to the next instruction. -/
  | sequential
  /-- Goes to its target or runs on. -/
  | conditional
  /-- Goes to its target, known or not. -/
  | unconditional
  /-- Goes away and comes back to the next instruction. -/
  | call
  /-- Leaves for the caller. -/
  | return
  /-- Traps. -/
  | interrupt
  deriving DecidableEq

namespace FlowCategory

/-- Whether control can reach the next instruction. -/
def fallsThrough : FlowCategory → Bool
  | sequential | conditional | call => true
  | unconditional | .return | interrupt => false

/-- Whether control can go to the target of the instruction and stay there. -/
def branches : FlowCategory → Bool
  | conditional | unconditional => true
  | sequential | call | .return | interrupt => false

def text : FlowCategory → String
  | sequential => "sequential"
  | conditional => "conditional"
  | unconditional => "unconditional"
  | call => "call"
  | .return => "return"
  | interrupt => "interrupt"

end FlowCategory

namespace X86

/-- The condition of a conditional jump, in the order of its encoding. -/
inductive Condition where
  | o
  | no
  | b
  | ae
  | e
  | ne
  | be
  | a
  | s
  | ns
  | p
  | np
  | l
  | ge
  | le
  | g
  deriving DecidableEq

namespace Condition

/-- Every condition, in the order of its encoding. -/
def all : List Condition := [o, no, b, ae, e, ne, be, a, s, ns, p, np, l, ge, le, g]

/-- The condition encoded by the low four bits of an opcode. -/
def ofOpcode (opcode : Nat) : Condition :=
  all.getD (opcode % 16) o

def text : Condition → String
  | o => "o"
  | no => "no"
  | b => "b"
  | ae => "ae"
  | e => "e"
  | ne => "ne"
  | be => "be"
  | a => "a"
  | s => "s"
  | ns => "ns"
  | p => "p"
  | np => "np"
  | l => "l"
  | ge => "ge"
  | le => "le"
  | g => "g"

end Condition

/-- What an instruction does. Those that are spelt out here are told apart by what is asked of
them; any other has its word and says itself how it affects the flow of control. -/
inductive Mnemonic where
  | adc
  | add
  | and
  | call
  | cdq
  | cmp
  | cqo
  | cwd
  | dec
  | div
  | hlt
  | idiv
  | imul
  | inc
  | int
  | int3
  | iret
  | iretd
  | iretq
  | jcc (condition : Condition)
  | jcxz
  | jecxz
  | jmp
  | jrcxz
  | lea
  | loop
  | loope
  | loopne
  | mov
  | movsx
  | movsxd
  | movzx
  | mul
  | neg
  | nop
  | not
  | or
  | pause
  | pop
  | push
  | rcl
  | rcr
  | ret
  | retf
  | rol
  | ror
  | sal
  | sar
  | sbb
  | shl
  | shr
  | sub
  | test
  | ud2
  | xbegin
  | xchg
  | xor
  | other (word : String) (flow : FlowCategory)
  deriving DecidableEq

namespace Mnemonic

/-- The mnemonic in lower case; a far return shares its word with the near one. -/
def text : Mnemonic → String
  | adc => "adc"
  | add => "add"
  | and => "and"
  | call => "call"
  | cdq => "cdq"
  | cmp => "cmp"
  | cqo => "cqo"
  | cwd => "cwd"
  | dec => "dec"
  | div => "div"
  | hlt => "hlt"
  | idiv => "idiv"
  | imul => "imul"
  | inc => "inc"
  | int => "int"
  | int3 => "int3"
  | iret => "iret"
  | iretd => "iretd"
  | iretq => "iretq"
  | jcc condition => "j" ++ condition.text
  | jcxz => "jcxz"
  | jecxz => "jecxz"
  | jmp => "jmp"
  | jrcxz => "jrcxz"
  | lea => "lea"
  | loop => "loop"
  | loope => "loope"
  | loopne => "loopne"
  | mov => "mov"
  | movsx => "movsx"
  | movsxd => "movsxd"
  | movzx => "movzx"
  | mul => "mul"
  | neg => "neg"
  | nop => "nop"
  | not => "not"
  | or => "or"
  | pause => "pause"
  | pop => "pop"
  | push => "push"
  | rcl => "rcl"
  | rcr => "rcr"
  | ret => "ret"
  | retf => "ret"
  | rol => "rol"
  | ror => "ror"
  | sal => "sal"
  | sar => "sar"
  | sbb => "sbb"
  | shl => "shl"
  | shr => "shr"
  | sub => "sub"
  | test => "test"
  | ud2 => "ud2"
  | xbegin => "xbegin"
  | xchg => "xchg"
  | xor => "xor"
  | other word _ => word

/-- The mnemonic's own name, capitalised; here the far return has a name of its own. -/
def name : Mnemonic → String
  | retf => "Retf"
  | m => m.text.capitalize

/-- How an instruction with this mnemonic affects the flow of control. -/
def category : Mnemonic → FlowCategory
  | jcc _ | jcxz | jecxz | jrcxz | loop | loope | loopne => .conditional
  | jmp => .unconditional
  | call => .call
  | ret | retf | iret | iretd | iretq => .return
  | int | int3 | ud2 => .interrupt
  | other _ flow => flow
  | _ => .sequential

end Mnemonic

/-- The shifts in the order of their encoding. -/
def shiftMnemonics : List Mnemonic := [.rol, .ror, .rcl, .rcr, .shl, .shr, .sal, .sar]

/-- A place in memory: base, scaled index and displacement, or an address outright. -/
structure Memory where
  /-- The size of what is accessed, where the instruction accesses anything. -/
  width : Option Width
  override : Option SegmentRegister
  base : Option Register
  index : Option (Register × Nat)
  /-- The displacement, widened to the width of addresses; an address outright when there
  is neither base nor index. -/
  displacement : Nat
  addressWidth : Width
  deriving DecidableEq

/-- One operand of an instruction. -/
inductive Operand where
  | register (register : Register)
  | memory (place : Memory)
  /-- A number, encoded at one width and shown at another, with the sign carried over. -/
  | immediate (encoded shown : Width) (value : Nat)
  /-- The target of a direct near branch, an address of the given width. -/
  | nearTarget (width : Width) (address : Nat)
  /-- The target of a direct far branch, an offset of the given width in a segment. -/
  | farTarget (width : Width) (selector offset : Nat)
  /-- Anything else, as a listing shows it. -/
  | other (text : String)
  deriving DecidableEq

/-- What an operand holds in the room that an instruction has for a displacement. A near target
stands there, the selector of a far one, and the upper half of a number of 64 bits. -/
def Operand.displacement? : Operand → Option Nat
  | memory place => some place.displacement
  | nearTarget _ address => some address
  | farTarget _ selector _ => some selector
  | immediate .qword _ value => some (value / 0x100000000)
  | immediate _ _ _ | register _ | other _ => none

/-- How far a branch or return reaches, where a listing says so. -/
inductive Reach where
  | near
  | short
  | far
  deriving DecidableEq

/-- A mark that a prefix leaves in front of the mnemonic. -/
inductive Mark where
  | operandSize (width : Width)
  | addressSize (width : Width)
  | xacquire
  | xrelease
  | lock
  | hintNotTaken
  | hintTaken
  | notrack
  | bnd
  | rep
  deriving DecidableEq

def Mark.text : Mark → String
  | operandSize width => "data" ++ (8 * width.bytes).repr
  | addressSize width => "addr" ++ (8 * width.bytes).repr
  | xacquire => "xacquire"
  | xrelease => "xrelease"
  | lock => "lock"
  | hintNotTaken => "hint-not-taken"
  | hintTaken => "hint-taken"
  | notrack => "notrack"
  | bnd => "bnd"
  | rep => "rep"

/-- The most bytes an instruction has. -/
def maxLength : Nat := 15

/-- A decoded instruction with its operands. -/
structure Instruction where
  address : Nat
  length : Nat
  mnemonic : Mnemonic
  reach : Reach
  operands : List Operand
  marks : List Mark
  deriving DecidableEq

namespace Instruction

/-- The target of a direct near branch. -/
def nearTarget? (instruction : Instruction) : Option Nat :=
  match instruction.operands with
  | .nearTarget _ address :: _ => some address
  | _ => none

/-- What the instruction holds in its room for a displacement, 0 when it has nothing there. -/
def displacement (instruction : Instruction) : Nat :=
  (instruction.operands.findSome? Operand.displacement?).getD 0

/-- Whether the instruction compares memory with a zero that is encoded in one byte and
widened to 32 bits. -/
def comparesMemoryWithZero (instruction : Instruction) : Bool :=
  match instruction.mnemonic, instruction.operands with
  | .cmp, [.memory _, .immediate .byte .dword value] => value == 0
  | _, _ => false

end Instruction

end X86

end Landmark
