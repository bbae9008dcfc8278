import Landmark.Routine.Discovery

/-! # Routines

A routine is a function reconstructed from its entry: the instructions that control
reaches, in the order of their addresses, no two of them sharing bytes. Room between
them, for data, filler or code that nothing reaches, is allowed and counted.
-/

namespace Landmark

open Log

/-- A function reconstructed from its entry. -/
structure Routine where
  entry : Nat
  segment : Segment
  disassembler : Disassembler
  instructions : List Decoding
  /-- How many rooms there are between instructions. -/
  gaps : Nat

namespace Routine

/-- The first two neighbours of which the second starts inside the first. -/
def overlap? : List Decoding → Option (Decoding × Decoding)
  | first :: second :: rest =>
    if second.address < first.stop then some (first, second) else overlap? (second :: rest)
  | _ => none

/-- The sizes of the rooms between neighbours. -/
def rooms : List Decoding → List Nat
  | first :: second :: rest =>
    let room := second.address - first.stop
    if room = 0 then rooms (second :: rest) else room :: rooms (second :: rest)
  | _ => []

/-- Reconstructs the function at an entry from at most `limit` instructions. -/
def parse (segment : Segment) (disassembler : Disassembler) (entry limit : Nat) :
    Attempt ParseFailure Routine := do
  let task : Discovery.Task := { segment, disassembler, limit }
  let instructions := (← task.discover entry).map Prod.snd
  match overlap? instructions with
  | some (first, second) => throw (.overlap first.address second.address)
  | none =>
    let found := rooms instructions
    Attempt.emit {
      level := .debug, target := Discovery.target, message := "function parsed"
      fields := [("entry", .address entry), ("instructions", .number instructions.length),
        ("gaps", .number found.length), ("max_gap", .number (found.foldl max 0))] }
    return { entry, segment, disassembler, instructions, gaps := found.length }

/-- How many instructions there are. -/
def size (routine : Routine) : Nat := routine.instructions.length

/-- The lowest address of an instruction. -/
def start (routine : Routine) : Nat :=
  match routine.instructions.head? with
  | some first => first.address
  | none => routine.entry

/-- The address behind the highest instruction. -/
def stop (routine : Routine) : Nat :=
  match routine.instructions.getLast? with
  | some last => last.stop
  | none => routine.entry

/-- Whether an address is that of a byte of one of the instructions. Of those that start at or
below it only the last can cover it. -/
def contains (routine : Routine) (address : Nat) : Bool :=
  match (routine.instructions.takeWhile fun i => i.address ≤ address).getLast? with
  | some last => last.covers address
  | none => false

/-- The instructions at an address or above. -/
def instructionsFrom (routine : Routine) (address : Nat) : List Decoding :=
  routine.instructions.dropWhile fun i => i.address < address

/-- The instructions from an address on, or all. -/
def tail (routine : Routine) : Option Nat → List Decoding
  | some address => routine.instructionsFrom address
  | none => routine.instructions

/-- The bytes from an instruction to the end of the segment. -/
def bytesOf (routine : Routine) (decoding : Decoding) : Bytes :=
  (routine.segment.bytesFrom? decoding.address).getD []

/-- An instruction with its operands. -/
def detail? (routine : Routine) (decoding : Decoding) : Option X86.Instruction :=
  (routine.disassembler.detail decoding.address (routine.bytesOf decoding)).toOption

/-- The target of a direct branch or call. -/
def target? (routine : Routine) (decoding : Decoding) : Option Nat :=
  routine.disassembler.target? decoding.address (routine.bytesOf decoding)

/-- The part of the program that reports on routines. -/
def reporter : String := "sigresolve::core::function"

/-- The calls from an address on, or all. -/
def calls (routine : Routine) (start : Option Nat) : List Decoding :=
  (routine.tail start).filter Decoding.isCall

/-- What is reported of a call: that its target is unknown. -/
def reports (routine : Routine) (call : Decoding) : List Event :=
  if (routine.target? call).isNone then
    [{ level := .debug, target := reporter, message := "skipping indirect call"
       fields := [("function", .address routine.entry), ("call", .address call.address)] }]
  else []

/-- The targets of the direct calls from an address on, or of all, in the order of the calls. -/
def callTargets (routine : Routine) (start : Option Nat) : Traced (List Nat) :=
  let calls := routine.calls start
  { value := calls.filterMap routine.target?, events := calls.flatMap routine.reports }

/-- The addresses of the instructions from an address on that are as asked for. -/
def find (routine : Routine) (start : Option Nat) (isWanted : X86.Instruction → Bool) :
    List Nat :=
  ((routine.tail start).filter fun i => (routine.detail? i).any isWanted).map Decoding.address

/-- The address of the instruction that is as asked for, when there is just one. -/
def findOnly (routine : Routine) (start : Option Nat) (isWanted : X86.Instruction → Bool) :
    Traced (Option Nat) := do
  match routine.find start isWanted with
  | [one] => return some one
  | found =>
    Traced.emit {
      level := .debug, target := reporter
      message := "expected exactly one matching instruction"
      fields := [("function", .address routine.entry), ("matches", .number found.length)] }
    return none

/-- The text of an instruction, or why there is none. -/
def instructionText (routine : Routine) (decoding : Decoding) : String :=
  match routine.disassembler.detail decoding.address (routine.bytesOf decoding) with
  | .ok instruction => instruction.text
  | .error error => error.message

/-- One line for each instruction: its address and its text. -/
def listing (routine : Routine) : List String :=
  routine.instructions.map fun i =>
    Hex.paddedAddress 10 i.address ++ "  " ++ routine.instructionText i

end Routine

end Landmark
