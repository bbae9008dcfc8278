/-! # Modes, widths and registers

Code runs in one of three modes, which have addresses of different width. A general
register is a number from 0 to 15 seen at one of four widths. Numbers 4 to 7 at byte
width name the upper halves of the first four registers, unless the instruction
carries the prefix that extends register numbers.
-/

namespace Landmark.X86

/-- The width of an operand. -/
inductive Width where
  | byte
  | word
  | dword
  | qword
  deriving DecidableEq

namespace Width

/-- Bytes in an operand of this width. -/
def bytes : Width → Nat
  | byte => 1
  | word => 2
  | dword => 4
  | qword => 8

/-- How many values an operand of this width has. -/
def span : Width → Nat
  | byte => 0x100
  | word => 0x10000
  | dword => 0x100000000
  | qword => 0x10000000000000000

/-- The name of the width in front of a memory operand. -/
def text : Width → String
  | byte => "byte"
  | word => "word"
  | dword => "dword"
  | qword => "qword"

/-- The width that a listing has to announce: one that is not the usual one. -/
def announced? (width usual : Width) : Option Width :=
  if width = usual then none else some width

/-- Reads `value` as a signed number of width `source` and widens it to `target`. -/
def signExtend (source target : Width) (value : Nat) : Nat :=
  if value < source.span / 2 then value else value + (target.span - source.span)

end Width

/-- The mode in which code runs. -/
inductive Mode where
  | bits16
  | bits32
  | bits64
  deriving DecidableEq

namespace Mode

/-- The mode of a bitness; there are three. -/
def ofBits? (bits : Nat) : Option Mode :=
  if bits = 16 then some bits16
  else if bits = 32 then some bits32
  else if bits = 64 then some bits64
  else none

/-- The width of addresses, and of branches, when no prefix changes it. -/
def nativeWidth : Mode → Width
  | bits16 => .word
  | bits32 => .dword
  | bits64 => .qword

/-- The width of ordinary operands when no prefix changes it. -/
def operandWidth : Mode → Width
  | bits16 => .word
  | bits32 | bits64 => .dword

end Mode

/-- A segment register. -/
inductive SegmentRegister where
  | es
  | cs
  | ss
  | ds
  | fs
  | gs
  deriving DecidableEq

/-- The name of a segment register. -/
def SegmentRegister.text : SegmentRegister → String
  | es => "es"
  | cs => "cs"
  | ss => "ss"
  | ds => "ds"
  | fs => "fs"
  | gs => "gs"

/-- A general register at one width. -/
structure Register where
  width : Width
  number : Nat
  /-- Set for the upper byte of one of the first four registers. -/
  upperHalf : Bool := false
  deriving DecidableEq

namespace Register

/-- Names of the first eight registers without the mark of their width. -/
def stems : List String := ["ax", "cx", "dx", "bx", "sp", "bp", "si", "di"]

/-- The name of a register. -/
def text (r : Register) : String :=
  match stems[r.number]?, r.width with
  | some stem, .qword => "r" ++ stem
  | some stem, .dword => "e" ++ stem
  | some stem, .word => stem
  | some stem, .byte =>
    if r.upperHalf then String.ofList (stem.toList.take 1 ++ ['h'])
    else if r.number < 4 then String.ofList (stem.toList.take 1 ++ ['l'])
    else stem ++ "l"
  | none, width =>
    "r" ++ String.ofList (Nat.toDigits 10 r.number) ++
      match width with
      | .qword => ""
      | .dword => "d"
      | .word => "w"
      | .byte => "b"

end Register

end Landmark.X86
