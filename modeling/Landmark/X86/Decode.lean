import Landmark.Disassembler
import Landmark.X86.Opcode

/-! # Decoding one instruction

An instruction has at most fifteen bytes. When the bytes given end inside it, more
bytes could complete it, unless fifteen were there already: then none can.
-/

namespace Landmark.X86

/-- Whether the bounds prefix marks the instruction: a near branch that is not a short jump
without condition. -/
def Body.keepsBounds (body : Body) : Bool :=
  match body.mnemonic, body.reach with
  | .call, .near | .jmp, .near | .ret, .near | .jcc _, _ => true
  | _, _ => false

/-- Whether a near branch takes its target from a register or from memory. -/
def Body.isIndirect (body : Body) (operands : List Operand) : Bool :=
  match body.mnemonic, operands with
  | .call, .register _ :: _ | .call, .memory _ :: _ => true
  | .jmp, .register _ :: _ | .jmp, .memory _ :: _ => true
  | _, _ => false

/-- Whether the first operand is a place in memory. -/
def writesMemory : List Operand → Bool
  | .memory _ :: _ => true
  | _ => false

/-- Whether the instruction can be made indivisible: it has to write to memory. -/
def Body.canLock (body : Body) (operands : List Operand) : Bool :=
  body.locking == .indivisible && writesMemory operands

/-- The mark of an elided lock. It starts and ends with an instruction that is made
indivisible and writes to memory; a plain move to memory can end it too. -/
def Setting.elisionMark (s : Setting) (body : Body) (operands : List Operand) : List Mark :=
  if writesMemory operands then
    match body.locking, s.prefixes.lock, s.prefixes.repetition with
    | .indivisible, true, some .notEqual => [.xacquire]
    | .indivisible, true, some .equal | .release, _, some .equal => [.xrelease]
    | _, _, _ => []
  else []

/-- The mark of a segment override that tells a branch something else than its segment. -/
def Setting.segmentMark (s : Setting) (body : Body) (operands : List Operand) : List Mark :=
  match s.prefixes.override, body.mnemonic with
  | some .cs, .jcc _ => [.hintNotTaken]
  | some .ds, .jcc _ => [.hintTaken]
  | some .ds, _ => if body.isIndirect operands then [.notrack] else []
  | _, _ => []

/-- The marks that prefixes leave on an instruction, in the order of a listing. -/
def Setting.marks (s : Setting) (body : Body) (operands : List Operand) : List Mark :=
  let sizes :=
    body.operandMark.toList.map Mark.operandSize ++ body.addressMark.toList.map Mark.addressSize
  let lock : List Mark := if s.prefixes.lock then [.lock] else []
  let repetition : List Mark :=
    match s.prefixes.repetition, body.mnemonic, operands with
    | some .equal, .ret, [] => [.rep]
    | some .notEqual, _, _ => if body.keepsBounds then [.bnd] else []
    | _, _, _ => []
  sizes ++ s.elisionMark body operands ++ lock ++ s.segmentMark body operands ++ repetition

/-- Takes a whole instruction. The result still wants the length of what was taken. -/
def scanInstruction (mode : Mode) : Scan (Setting × Body) := do
  let (prefixes, opcode) ← Prefixes.scan mode {}
  let s : Setting := { mode, prefixes }
  let body ← s.scanBody opcode
  if prefixes.lock && !body.canLock (body.operands 0) then Scan.undefined
  else return (s, body)

/-- The instruction of a setting and body that were taken from `length` bytes at `address`. -/
def assemble (address length : Nat) (s : Setting) (body : Body) : Instruction :=
  let operands := body.operands ((address + length) % Width.qword.span)
  { address, length
    mnemonic := body.mnemonic
    reach := body.reach
    operands
    marks := s.marks body operands }

/-- Decodes the instruction at the head of `bytes`, which stand at `address`, as code of a mode. -/
def decodeIn (mode : Mode) (address : Nat) (bytes : Bytes) : Except Decoder.Refusal Instruction :=
  let window := bytes.take maxLength
  match scanInstruction mode window with
  | .ok ((s, body), rest) => .ok (assemble address (window.length - rest.length) s body)
  | .error .undefined => .error .undefined
  | .error .exhausted => .error (if window.length < maxLength then .exhausted else .undefined)

/-- A decoder for the integer instructions that compilers put into ordinary functions: arithmetic,
shifts, moves, stack and branches. It refuses all others as if there were none, which a full decoder
does not: `leave` and `enter`; pushes and pops of flags, of segments and of all registers at once;
`xchg` but for 90h; `cwde` and `cdqe`; `setcc`, `cmovcc` and what sets single flags; `bt`, `bsf` and
their kin; `shld`, `shrd`, `bswap`, `xadd` and `cmpxchg`; moves to and from segment, control and
debug registers; the string instructions; far branches through memory; decimal adjustments; `into`,
`bound`, input and output; `cpuid`, `syscall` and the rest of the system; x87, MMX, SSE and AVX. -/
instance : Decoder where
  decode := decodeIn

/-- Decodes the instruction at the head of `bytes`, which stand at `address`. -/
def decode (bits address : Nat) (bytes : Bytes) : Except DecodeError Instruction :=
  Decoder.detail bits address bytes

/-- The disassembler for code of the given bitness. -/
def disassembler (bits : Nat) : Disassembler := .ofBits bits

end Landmark.X86
