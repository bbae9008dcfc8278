import Landmark.Bytes
import Landmark.X86.Listing

/-! # Disassemblers

What the reconstruction of functions needs of a disassembler: the extent and category of the
instruction at an address, and the target of a direct branch. Any functions will do. Those that
modules are searched with come of a decoder, which is known by its interface alone: it takes an
instruction with its operands off the head of bytes, or says why it does not.
-/

namespace Landmark

/-- Why bytes could not be decoded. -/
inductive DecodeError where
  /-- The bytes form no instruction. -/
  | invalid (address : Nat)
  /-- The bytes end inside the instruction. -/
  | insufficient (address : Nat)
  /-- There is no mode of this bitness. -/
  | unsupportedBitness (bits : Nat)
  deriving DecidableEq

def DecodeError.message : DecodeError → String
  | invalid address => "invalid instruction at " ++ Hex.address address
  | insufficient address => "insufficient bytes at " ++ Hex.address address
  | unsupportedBitness bits => "unsupported bitness " ++ bits.repr

/-- The extent of an instruction and what it does to the flow of control. -/
structure Decoding where
  address : Nat
  length : Nat
  mnemonic : X86.Mnemonic
  category : FlowCategory
  deriving DecidableEq

namespace Decoding

/-- The address behind the instruction. -/
def stop (decoding : Decoding) : Nat := decoding.address + decoding.length

/-- Whether an address is that of one of the instruction's bytes. -/
def covers (decoding : Decoding) (address : Nat) : Bool :=
  decoding.address ≤ address && address < decoding.stop

/-- Whether the instruction calls. -/
def isCall (decoding : Decoding) : Bool := decoding.category == .call

/-- Address, mnemonic, length and category. -/
def text (decoding : Decoding) : String :=
  Hex.address decoding.address ++ ": " ++ decoding.mnemonic.name ++ " (" ++
    decoding.length.repr ++ " bytes, " ++ decoding.category.text ++ ")"

end Decoding

/-- The extent and category of a decoded instruction. -/
def X86.Instruction.decoding (instruction : X86.Instruction) : Decoding :=
  { address := instruction.address
    length := instruction.length
    mnemonic := instruction.mnemonic
    category := instruction.mnemonic.category }

/-- Something that decodes the instruction at the head of bytes that stand at an address. -/
structure Disassembler where
  /-- The most bytes an instruction can take. -/
  maxLength : Nat
  decode : Nat → Bytes → Except DecodeError Decoding
  /-- The target of a direct branch or call. -/
  target? : Nat → Bytes → Option Nat
  /-- The instruction with its operands. -/
  detail : Nat → Bytes → Except DecodeError X86.Instruction

/-- The disassembler that reads everything off the instruction with its operands. -/
def Disassembler.ofDetail (detail : Nat → Bytes → Except DecodeError X86.Instruction) :
    Disassembler where
  maxLength := X86.maxLength
  decode address bytes := (detail address bytes).map fun whole => { whole.decoding with address }
  target? address bytes := (detail address bytes).toOption.bind X86.Instruction.nearTarget?
  detail

/-- Why a decoder takes no instruction off the head of bytes. -/
inductive Decoder.Refusal where
  /-- The bytes end inside the instruction. -/
  | exhausted
  /-- The bytes form no instruction. -/
  | undefined
  deriving DecidableEq

/-- What instructions are decoded with: it takes the instruction at the head of bytes that stand
at an address, as code of a mode. -/
class Decoder where
  decode : X86.Mode → Nat → Bytes → Except Decoder.Refusal X86.Instruction

/-- What is wrong with bytes at an address that a decoder refuses. -/
def DecodeError.ofRefusal (address : Nat) : Decoder.Refusal → DecodeError
  | .exhausted => .insufficient address
  | .undefined => .invalid address

variable [Decoder]

/-- Decodes the instruction with its operands, in code of the given bitness. -/
def Decoder.detail (bits address : Nat) (bytes : Bytes) : Except DecodeError X86.Instruction :=
  match X86.Mode.ofBits? bits with
  | none => .error (.unsupportedBitness bits)
  | some mode => (Decoder.decode mode address bytes).mapError (DecodeError.ofRefusal address)

/-- The disassembler for code of the given bitness. -/
def Disassembler.ofBits (bits : Nat) : Disassembler := .ofDetail (Decoder.detail bits)

end Landmark
