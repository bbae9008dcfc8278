import Landmark.X86.Setting

/-! # Operands from memory or registers

The byte behind many opcodes splits into a kind, a register field and a second
field that is a register or a way to form an address. Addresses relative to the
next instruction are known only once the instruction has been read whole, so an
operand is a function of the address of the next instruction.
-/

namespace Landmark.X86

/-- An operand, given the address of the next instruction. -/
abbrev Form := Nat → Operand

/-- The three parts of the byte that selects operands. -/
structure Selector where
  kind : Nat
  field : Nat
  target : Nat

namespace Selector

/-- Takes the byte that selects operands. -/
def scan : Scan Selector := do
  let value ← Scan.byte
  pure { kind := value / 64, field := value / 8 % 8, target := value % 8 }

/-- Whether the operand is a register and not a place in memory. -/
def isRegister (selector : Selector) : Bool :=
  selector.kind == 3

end Selector

namespace Setting

/-- Takes the displacement that a kind of address calls for. -/
def displacement (s : Setting) (kind : Nat) : Scan Nat :=
  match kind with
  | 1 => Scan.signed .byte s.addressWidth
  | 2 =>
    match s.addressWidth with
    | .word => Scan.number 2
    | width => Scan.signed .dword width
  | _ => pure 0

/-- The place with this base, index and displacement. -/
def placeAt (s : Setting) (width : Option Width) (base : Option Register)
    (index : Option (Register × Nat)) (displacement : Nat) : Memory :=
  { width, base, index, displacement
    override := s.shownOverride base
    addressWidth := s.addressWidth }

/-- Base and index of a 16-bit address. -/
def shortAddress (s : Setting) (target : Nat) : Option Register × Option (Register × Nat) :=
  let named (number : Nat) := s.register .word number
  match target with
  | 0 => (some (named 3), some (named 6, 1))
  | 1 => (some (named 3), some (named 7, 1))
  | 2 => (some (named 5), some (named 6, 1))
  | 3 => (some (named 5), some (named 7, 1))
  | 4 => (some (named 6), none)
  | 5 => (some (named 7), none)
  | 6 => (some (named 5), none)
  | _ => (some (named 3), none)

/-- Takes a 16-bit address. -/
def shortPlace (s : Setting) (selector : Selector) (width : Option Width) :
    Scan (Nat → Memory) := do
  if selector.kind = 0 ∧ selector.target = 6 then
    let address ← Scan.number 2
    pure fun _ => s.placeAt width none none address
  else
    let displacement ← s.displacement selector.kind
    let (base, index) := s.shortAddress selector.target
    pure fun _ => s.placeAt width base index displacement

/-- Takes an address with a scaled index. -/
def indexedPlace (s : Setting) (kind : Nat) (width : Option Width) : Scan (Nat → Memory) := do
  let value ← Scan.byte
  let indexNumber := s.extended 2 (value / 8 % 8)
  let scale := [1, 2, 4, 8].getD (value / 64) 1
  let index :=
    if indexNumber = 4 then none else some (s.register s.addressWidth indexNumber, scale)
  if kind = 0 ∧ value % 8 = 5 then
    let displacement ← s.displacement 2
    pure fun _ => s.placeAt width none index displacement
  else
    let displacement ← s.displacement kind
    let base := s.register s.addressWidth (s.extended 1 (value % 8))
    pure fun _ => s.placeAt width (some base) index displacement

/-- Takes the rest of an address in memory. -/
def place (s : Setting) (selector : Selector) (width : Option Width) : Scan (Nat → Memory) := do
  if s.addressWidth = .word then
    s.shortPlace selector width
  else if selector.target = 4 then
    s.indexedPlace selector.kind width
  else if selector.kind = 0 ∧ selector.target = 5 then
    let displacement ← s.displacement 2
    if s.mode = .bits64 then
      pure fun next =>
        s.placeAt width none none ((next + displacement) % s.addressWidth.span)
    else
      pure fun _ => s.placeAt width none none displacement
  else
    let displacement ← s.displacement selector.kind
    let base := s.register s.addressWidth (s.extended 1 selector.target)
    pure fun _ => s.placeAt width (some base) none displacement

/-- The register of the register field. -/
def fieldRegister (s : Setting) (selector : Selector) (width : Width) : Form :=
  fun _ => .register (s.register width (s.extended 4 selector.field))

/-- Takes the operand that is a register or a place of the given width. -/
def operand (s : Setting) (selector : Selector) (width : Width) : Scan Form := do
  if selector.isRegister then
    pure fun _ => .register (s.register width (s.extended 1 selector.target))
  else
    let memory ← s.place selector (some width)
    pure fun next => .memory (memory next)

/-- Takes the operand of an instruction that accesses no memory, so that its place has no
size. -/
def unsizedOperand (s : Setting) (selector : Selector) (width : Width) : Scan Form := do
  if selector.isRegister then
    pure fun _ => .register (s.register width (s.extended 1 selector.target))
  else
    let memory ← s.place selector none
    pure fun next => .memory (memory next)

/-- Takes a place of which only the address inside its segment matters, so that it shows
neither a size nor a segment. -/
def addressOperand (s : Setting) (selector : Selector) : Scan Form := do
  let memory ← s.place selector none
  pure fun next => .memory { memory next with override := none }

/-- A register by its number in the low three bits of an opcode. -/
def opcodeRegister (s : Setting) (opcode : Nat) (width : Width) : Form :=
  fun _ => .register (s.register width (s.extended 1 (opcode % 8)))

/-- The first register at a width: the accumulator. -/
def accumulator (s : Setting) (width : Width) : Form :=
  fun _ => .register (s.register width 0)

/-- Takes a number of width `encoded`, shown with its sign at width `shown`. -/
def immediate (encoded shown : Width) : Scan Form := do
  let value ← Scan.signed encoded shown
  pure fun _ => .immediate encoded shown value

/-- Takes a number of the width of the other operand, at most four bytes of it encoded. -/
def wideImmediate (width : Width) : Scan Form :=
  match width with
  | .qword => immediate .dword .qword
  | width => immediate width width

end Setting

end Landmark.X86
