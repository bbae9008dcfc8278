import Landmark.Bytes
import Landmark.X86.Register

/-! # Reading an instruction from its first byte on

A scan takes bytes off the front of a window and stops either because the window
is used up or because the bytes read so far start no instruction. Nothing behind
the bytes taken off is looked at.
-/

namespace Landmark.X86

/-- Why a scan stopped early. -/
inductive ScanStop where
  /-- The window ends inside the instruction. -/
  | exhausted
  /-- The bytes start no instruction. -/
  | undefined
  deriving DecidableEq

/-- A step that takes bytes off the front of a window. -/
abbrev Scan := StateT Bytes (Except ScanStop)

namespace Scan

/-- Takes one byte. -/
def byte : Scan Nat := fun
  | [] => .error .exhausted
  | b :: rest => .ok (b.toNat, rest)

/-- Takes a little-endian number of `count` bytes. -/
def number : Nat → Scan Nat
  | 0 => pure 0
  | count + 1 => do
    let low ← byte
    let high ← number count
    pure (low + 256 * high)

/-- Takes a number of width `encoded` and widens it, with its sign, to `shown`. -/
def signed (encoded shown : Width) : Scan Nat := do
  let value ← number encoded.bytes
  pure (encoded.signExtend shown value)

/-- Gives up: no instruction starts so. -/
def undefined {α : Type} : Scan α := throw .undefined

/-- Gives up on an opcode that stands for no instruction. The byte behind it still counts as
part of what was tried. -/
def unassigned {α : Type} : Scan α := do
  let _ ← byte
  undefined

end Scan

end Landmark.X86
