import Landmark.Bytes
import Landmark.X86.Register

/-! # Encoding instructions

The encodings that code written by hand needs, and a buffer that knows the address of
its next byte. A branch is encoded by the distance from the next instruction to its
target, cut to 32 bits.
-/

namespace Landmark.X86.Encode

/-- The return instruction. -/
def ret : UInt8 := 0xC3

/-- The instruction that does nothing. -/
def nop : UInt8 := 0x90

/-- The breakpoint that fills the room between functions. -/
def int3 : UInt8 := 0xCC

/-- Pushes the frame pointer. -/
def pushFrame : UInt8 := 0x55

/-- Pops the frame pointer. -/
def popFrame : UInt8 := 0x5D

/-- The distance to `target` from behind the `length` bytes at `address`. -/
def distance (address length target : Nat) : Bytes :=
  Bytes.ofNat 4 (target + Width.qword.span - (address + length) % Width.qword.span)

/-- A call of `target` placed at `address`. -/
def call (address target : Nat) : Bytes := 0xE8 :: distance address 5 target

/-- A jump to `target` placed at `address`. -/
def jump (address target : Nat) : Bytes := 0xE9 :: distance address 5 target

/-- A jump to `target` if zero, placed at `address`. -/
def jumpIfZero (address target : Nat) : Bytes := 0x0F :: 0x84 :: distance address 6 target

/-- Pushes a number of 32 bits. -/
def push (value : Nat) : Bytes := 0x68 :: Bytes.ofNat 4 value

/-- Loads the accumulator from an address. -/
def load (address : Nat) : Bytes := 0xA1 :: Bytes.ofNat 4 address

/-- Compares the 32 bits at an address with a number of eight. -/
def compare (address value : Nat) : Bytes :=
  0x83 :: 0x3D :: (Bytes.ofNat 4 address ++ Bytes.ofNat 1 value)

/-- Code being written from a known address on. -/
structure Buffer where
  base : Nat
  bytes : Bytes := []
  deriving DecidableEq

namespace Buffer

/-- The address of the next byte. -/
def here (buffer : Buffer) : Nat := buffer.base + buffer.bytes.length

/-- Appends bytes. -/
def emit (buffer : Buffer) (bytes : Bytes) : Buffer :=
  { buffer with bytes := buffer.bytes ++ bytes }

/-- Appends an instruction that depends on where it stands. -/
def emitHere (buffer : Buffer) (encode : Nat → Bytes) : Buffer :=
  buffer.emit (encode buffer.here)

/-- Fills up to `address`; code that is there already stays as it is. -/
def padTo (buffer : Buffer) (address : Nat) (filler : UInt8) : Buffer :=
  buffer.emit (List.replicate (address - buffer.here) filler)

/-- Fills up to the next multiple of `alignment`. -/
def align (buffer : Buffer) (alignment : Nat) (filler : UInt8) : Buffer :=
  buffer.emit
    (List.replicate ((alignment - buffer.here % alignment) % alignment) filler)

end Buffer

end Landmark.X86.Encode
