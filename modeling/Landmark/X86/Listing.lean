import Landmark.Text.Shown
import Landmark.X86.Instruction

/-! # Listings

The text of an instruction: marks, mnemonic and operands, with operands in order of
destination first. Numbers from 0 to 9 are plain digits; others are hexadecimal with an
`h` behind them and a zero in front of a leading letter. A size stands in front of a
place in memory only when no register operand tells it.
-/

namespace Landmark.X86

/-- Puts a zero in front of a leading letter and `h` behind. -/
def markHex (digits : String) : String :=
  match digits.toList with
  | first :: _ => if first.isDigit then digits ++ "h" else "0" ++ digits ++ "h"
  | [] => "h"

/-- A number in a listing. -/
def numberText (value : Nat) : String :=
  if value < 10 then value.repr else markHex (Hex.upperDigits 0 value)

/-- The target of a branch, or its segment: as many digits as numbers of the width have. -/
def targetText (width : Width) (address : Nat) : String :=
  if address < 10 then address.repr else markHex (Hex.upperDigits (2 * width.bytes) address)

namespace Memory

/-- The displacement behind a base or an index: signed, and left out when zero. -/
def displacementText (place : Memory) : String :=
  let span := place.addressWidth.span
  if place.displacement = 0 then ""
  else if place.displacement < span / 2 then "+" ++ numberText place.displacement
  else "-" ++ numberText (span - place.displacement)

/-- An index with its scale. -/
def indexText (register : Register) (scale : Nat) : String :=
  register.text ++ "*" ++ scale.repr

/-- What stands between the brackets. An index without a scale would read as a base, so only
one that stands behind a base leaves out a scale of one. -/
def addressText (place : Memory) : String :=
  match place.base, place.index with
  | none, none => numberText place.displacement
  | some base, none => base.text ++ place.displacementText
  | none, some (index, scale) => indexText index scale ++ place.displacementText
  | some base, some (index, scale) =>
    let indexed := if scale = 1 then index.text else indexText index scale
    base.text ++ "+" ++ indexed ++ place.displacementText

/-- A place in memory, with its size in front when `sized`. -/
def text (place : Memory) (sized : Bool) : String :=
  let size :=
    match place.width with
    | some width => if sized then width.text ++ " ptr " else ""
    | none => ""
  let segment :=
    match place.override with
    | some segment => segment.text ++ ":"
    | none => ""
  size ++ segment ++ "[" ++ place.addressText ++ "]"

end Memory

def Operand.text (sized : Bool) : Operand → String
  | register r => r.text
  | memory place => place.text sized
  | immediate _ _ value => numberText value
  | nearTarget width address => targetText width address
  | farTarget width selector offset => targetText width offset ++ "," ++ targetText .word selector
  | other text => text

namespace Instruction

/-- The operands of a listing: a product into its own first factor names it once. -/
def shownOperands (instruction : Instruction) : List Operand :=
  match instruction.mnemonic, instruction.operands with
  | .imul, [first, second, third] =>
    if first = second then [first, third] else [first, second, third]
  | _, operands => operands

/-- Whether no register operand tells the size of the place in memory. The register beside
it tells nothing when it holds an amount to shift by or the result of a widening, unless the
mnemonic has only one size to widen from. -/
def showsSize (instruction : Instruction) : Bool :=
  if instruction.mnemonic = .movsxd then false
  else if instruction.mnemonic ∈ [.movzx, .movsx] ++ shiftMnemonics then true
  else
    let widths := instruction.operands.filterMap fun
      | .register r => some r.width
      | _ => none
    instruction.operands.all fun
      | .memory place => !widths.any fun width => place.width == some width
      | _ => true

/-- The word for what the instruction does. -/
def word (instruction : Instruction) : String :=
  let base :=
    match instruction.mnemonic, instruction.operands with
    | .nop, [_, _] => "xchg"
    | mnemonic, _ => mnemonic.text
  match instruction.reach with
  | .near => base
  | .short => base ++ " short"
  | .far => base ++ " far"

/-- The instruction as a listing shows it. -/
def text (instruction : Instruction) : String :=
  let marks := instruction.marks.map fun mark => mark.text ++ " "
  let operands := instruction.shownOperands.map (Operand.text instruction.showsSize)
  let head := String.join marks ++ instruction.word
  if operands.isEmpty then head else head ++ " " ++ ",".intercalate operands

end Instruction

end Landmark.X86
