import Landmark.Disassembler
import Landmark.Log.Traced
import Landmark.Segment.Basic

/-! # Following the flow of control

Starting from an entry, addresses wait on a stack. One at a time is taken off: an
address seen before is dropped, any other is decoded and recorded, and the addresses
that control can reach from there are put on the stack, what runs on above what
branches away. The traversal never leaves its segment and records at most a given
number of instructions, which is why it ends whatever the disassembler says.
-/

namespace Landmark

open Log

/-- Why a function could not be reconstructed. -/
inductive ParseFailure where
  /-- Control reaches an address outside the segment. -/
  | outsideSegment (address : Nat) (segment : String)
  /-- Control reaches bytes that are no instruction. -/
  | undecodable (error : DecodeError)
  /-- There are more instructions than allowed. -/
  | tooManyInstructions (limit : Nat)
  /-- Two instructions share bytes. -/
  | overlap (first second : Nat)
  deriving DecidableEq

def ParseFailure.message : ParseFailure → String
  | outsideSegment address segment =>
    "control flow reaches " ++ Hex.address address ++ ", outside segment " ++ segment
  | undecodable error => "undecodable bytes: " ++ error.message
  | tooManyInstructions limit => "more than " ++ limit.repr ++ " instructions"
  | overlap first second =>
    "instruction at " ++ Hex.address second ++ " overlaps instruction at " ++ Hex.address first

namespace Discovery

/-- What is known of a function so far. -/
structure State where
  /-- The instructions recorded, each with the address it was found at, the latest first. -/
  recorded : List (Nat × Decoding)
  /-- The addresses still to be looked at, the next first. -/
  pending : List Nat

/-- What a traversal is about. -/
structure Task where
  segment : Segment
  disassembler : Disassembler
  /-- The most instructions that may be recorded. -/
  limit : Nat

/-- What one step leads to. -/
inductive Step where
  /-- Nothing is left to be looked at. -/
  | finished
  | failed (failure : ParseFailure)
  | advanced (state : State) (events : List Event)

/-- The part of the program that reports on traversals. -/
def target : String := "sigresolve::analysis::cfg"

/-- Whether an address was recorded. -/
def State.has (state : State) (address : Nat) : Bool :=
  state.recorded.any fun entry => entry.1 == address

namespace Task

/-- The bytes that an instruction at an address may take, when the address is strictly inside
the segment. -/
def window? (task : Task) (address : Nat) : Option Bytes :=
  if task.segment.contains address then
    (task.segment.bytesFrom? address).map fun bytes => bytes.take task.disassembler.maxLength
  else none

/-- The addresses that control can branch to from an instruction. -/
def branches (task : Task) (address : Nat) (window : Bytes) (decoding : Decoding) : List Nat :=
  if decoding.category.branches then (task.disassembler.target? address window).toList else []

/-- The address that control can run on to from an instruction. -/
def following (decoding : Decoding) : List Nat :=
  if decoding.category.fallsThrough then [decoding.stop] else []

/-- What is reported of an instruction: that it branches to an unknown address. -/
def reports (task : Task) (address : Nat) (window : Bytes) (decoding : Decoding) : List Event :=
  if decoding.category.branches ∧ (task.disassembler.target? address window).isNone then
    [{ level := .trace, target := Discovery.target, message := "branch without direct target"
       fields := [("at", .address address)] }]
  else []

/-- One step of the traversal. -/
def step (task : Task) (state : State) : Step :=
  match state.pending with
  | [] => .finished
  | address :: rest =>
    if state.has address then .advanced { state with pending := rest } []
    else
      match task.window? address with
      | none => .failed (.outsideSegment address task.segment.name)
      | some window =>
        match task.disassembler.decode address window with
        | .error error => .failed (.undecodable error)
        | .ok decoding =>
          if task.limit ≤ state.recorded.length then .failed (.tooManyInstructions task.limit)
          else
            .advanced {
              recorded := (address, decoding) :: state.recorded
              pending :=
                following decoding ++ task.branches address window decoding ++ rest }
              (task.reports address window decoding)

/-- A step that goes on uses up room for instructions or takes an address off the stack. -/
theorem step_decreases {task : Task} {state next : State} {events : List Event}
    (advances : task.step state = .advanced next events) :
    Prod.Lex (· < ·) (· < ·)
      (task.limit - next.recorded.length, next.pending.length)
      (task.limit - state.recorded.length, state.pending.length) := by
  unfold step at advances
  split at advances
  · simp at advances
  · next address rest pending =>
    split at advances
    · simp only [Step.advanced.injEq] at advances
      obtain ⟨rfl, _⟩ := advances
      apply Prod.Lex.right
      simp [pending]
    · split at advances
      · simp at advances
      · split at advances
        · simp at advances
        · split at advances
          · simp at advances
          · next room =>
            simp only [Step.advanced.injEq] at advances
            obtain ⟨rfl, _⟩ := advances
            apply Prod.Lex.left
            simp only [List.length_cons]
            omega

/-- Runs the traversal from a state to its end. -/
def run (task : Task) (state : State) : Traced (Except ParseFailure (List (Nat × Decoding))) :=
  match _stepped : task.step state with
  | .finished => { value := .ok state.recorded }
  | .failed failure => { value := .error failure }
  | .advanced next events =>
    let later := task.run next
    { value := later.value, events := events ++ later.events }
termination_by (task.limit - state.recorded.length, state.pending.length)
decreasing_by exact step_decreases _stepped

/-- Every instruction that control can reach from an entry, in the order of their addresses. -/
def discover (task : Task) (entry : Nat) : Attempt ParseFailure (List (Nat × Decoding)) := do
  let recorded ← ExceptT.mk (task.run { recorded := [], pending := [entry] })
  return recorded.mergeSort fun a b => a.1 ≤ b.1

end Task

end Discovery

end Landmark
