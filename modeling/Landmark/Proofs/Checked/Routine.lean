import Landmark.Proofs.Checked.Segment
import Landmark.Proofs.Routine.Queries
import Mathlib.Data.List.Sort

/-! # Reconstructing functions, checked

Each step of a traversal takes one address off the stack and puts back at most two, and
then it has one instruction less to record. So it ends within twice as many steps as
instructions are allowed, and one. The end of an instruction lies at most fifteen bytes
behind an address of the segment, which is why it can always be computed.
-/

namespace Landmark

open Log

/-- Everything that is computed of a function fits into an address. -/
structure Routine.Fits (routine : Routine) : Prop where
  low : routine.segment.Low
  ends : ∀ i ∈ routine.instructions, i.stop < Checked.word

namespace Discovery.Task

/-- How many steps a traversal can still take. -/
def potential (task : Task) (state : State) : Nat :=
  state.pending.length + 2 * (task.limit - state.recorded.length)

theorem potential_decreases {task : Task} {state next : State} {events : List Event}
    (advances : task.step state = .advanced next events) :
    task.potential next < task.potential state := by
  have moves := task.step_moves state
  rw [advances] at moves
  cases moves with
  | skipped pending seen =>
    simp only [potential, pending, List.length_cons]
    omega
  | @recorded address rest window decoding pending fresh found decoded room =>
    -- One instruction less can be recorded, for at most two addresses more on the stack.
    have onward : (following decoding).length ≤ 1 := by
      unfold following
      split <;> simp
    have away : (task.branches address window decoding).length ≤ 1 := by
      unfold branches
      split
      · cases task.disassembler.target? address window <;> simp
      · simp
    simp only [potential, pending, List.length_cons, List.length_append]
    omega

end Discovery.Task

namespace Checked

open Discovery (State)
open Discovery.Task (potential)

/-! ## The traversal -/

def stopOf (decoding : Decoding) : Checked Nat := add decoding.address decoding.length

def window? (task : Discovery.Task) (address : Nat) : Checked (Option Bytes) := do
  match ← bytesFrom? task.segment address with
  | none => return none
  | some bytes =>
    if ← contains task.segment address then
      return some (← front bytes (min bytes.length task.disassembler.maxLength))
    else return none

def following (decoding : Decoding) : Checked (List Nat) := do
  if decoding.category.fallsThrough then return [← stopOf decoding] else return []

def step (task : Discovery.Task) (state : State) : Checked Discovery.Step :=
  match state.pending with
  | [] => return .finished
  | address :: rest =>
    if state.has address then return .advanced { state with pending := rest } []
    else do
      match ← window? task address with
      | none => return .failed (.outsideSegment address task.segment.name)
      | some window =>
        match task.disassembler.decode address window with
        | .error error => return .failed (.undecodable error)
        | .ok decoding =>
          if task.limit ≤ state.recorded.length then
            return .failed (.tooManyInstructions task.limit)
          else
            let next ← following decoding
            return .advanced {
              recorded := (address, decoding) :: state.recorded
              pending := next ++ task.branches address window decoding ++ rest }
              (task.reports address window decoding)

/-- Each round costs one of `fuel`. -/
def run (task : Discovery.Task) :
    (fuel : Nat) → State → Checked (Except ParseFailure (List (Nat × Decoding)))
  | 0, _ => .error .endless
  | fuel + 1, state => do
    match ← step task state with
    | .finished => return .ok state.recorded
    | .failed failure => return .error failure
    | .advanced next _ => run task fuel next

def discover (task : Discovery.Task) (entry : Nat) :
    Guarded ParseFailure (List (Nat × Decoding)) := do
  let recorded ← ExceptT.mk (run task (2 * task.limit + 2) { recorded := [], pending := [entry] })
  return recorded.insertionSort fun a b => a.1 ≤ b.1

/-! ## The function -/

/-- The sizes of the rooms between neighbours, of which none may start inside the one in front. -/
def rooms : List Decoding → Guarded ParseFailure (List Nat)
  | first :: second :: rest => do
    let stop ← ExceptT.lift (stopOf first)
    if second.address < stop then throw (.overlap first.address second.address)
    else
      let room ← ExceptT.lift (sub second.address stop)
      let later ← rooms (second :: rest)
      return if room = 0 then later else room :: later
  | _ => return []

def parse (task : Discovery.Task) (entry : Nat) : Guarded ParseFailure Routine := do
  let instructions := (← discover task entry).map Prod.snd
  let gaps := (← rooms instructions).length
  return { entry, segment := task.segment, disassembler := task.disassembler, instructions, gaps }

def covers (decoding : Decoding) (address : Nat) : Checked Bool := do
  if decoding.address ≤ address then return address < (← stopOf decoding) else return false

def holds (routine : Routine) (address : Nat) : Checked Bool := do
  let count := partitionPoint (fun i => i.address ≤ address) routine.instructions
  if count = 0 then return false
  else covers (← get routine.instructions (← sub count 1)) address

def bytesOf (routine : Routine) (decoding : Decoding) : Checked Bytes := do
  return (← bytesFrom? routine.segment decoding.address).getD []

def target? (routine : Routine) (decoding : Decoding) : Checked (Option Nat) := do
  return routine.disassembler.target? decoding.address (← bytesOf routine decoding)

def callTargets (routine : Routine) : Checked (List Nat) := do
  return (← (routine.instructions.filter Decoding.isCall).mapM (target? routine)).filterMap id

/-! ## Agreement -/

/-- Both ways to sort come to the same, since no two instructions have one address. -/
theorem insertionSort_eq {recorded : List (Nat × Decoding)}
    (distinct : (recorded.map Prod.fst).Nodup) :
    (recorded.insertionSort fun a b => a.1 ≤ b.1) =
      recorded.mergeSort fun a b => a.1 ≤ b.1 := by
  have total : Std.Total fun a b : Nat × Decoding => a.1 ≤ b.1 := ⟨fun a b => Nat.le_total _ _⟩
  have trans : IsTrans (Nat × Decoding) fun a b => a.1 ≤ b.1 := ⟨fun a b c => Nat.le_trans⟩
  have perm := recorded.perm_insertionSort fun a b => a.1 ≤ b.1
  refine (perm.trans (List.mergeSort_perm _ _).symm).eq_of_pairwise ?_
    (List.pairwise_insertionSort _ recorded) (Extent.ascending_mergeSort recorded)
  intro a b inA inB less more
  exact List.inj_on_of_nodup_map distinct (perm.mem_iff.mp inA)
    ((List.mergeSort_perm _ _).mem_iff.mp inB) (Nat.le_antisymm less more)

theorem rooms_eq {row : List Decoding} (fits : ∀ i ∈ row, i.stop < word) :
    rooms row = match Routine.overlap? row with
      | some (first, second) => throw (.overlap first.address second.address)
      | none => pure (Routine.rooms row) := by
  fun_induction rooms row with
  | case1 first second rest ih =>
    have stop : stopOf first = .ok first.stop := add_eq (fits first List.mem_cons_self)
    rw [stop, lift_ok_bind, Routine.overlap?]
    split
    next inside => rfl
    next behind =>
      rw [sub_eq (Nat.not_lt.mp behind), lift_ok_bind,
        ih fun i member => fits i (List.mem_cons_of_mem _ member), Routine.rooms]
      cases Routine.overlap? (second :: rest) <;> rfl
  | case2 row short =>
    rcases Extent.nil_or_singleton short with rfl | ⟨last, rfl⟩
    · rfl
    · rfl

section Traversal

variable {task : Discovery.Task} (low : task.segment.Low)
include low

theorem window?_eq (address : Nat) : window? task address = .ok (task.window? address) := by
  unfold window? Discovery.Task.window?
  rw [bytesFrom?_eq low.room, ok_bind]
  cases task.segment.bytesFrom? address with
  | none =>
    rw [Option.map_none, ite_self]
    rfl
  | some bytes =>
    dsimp only
    rw [contains_eq, ok_bind]
    split
    next =>
      rw [front_eq (Nat.min_le_left _ _), ok_bind, Option.map_some, Nat.min_comm,
        ← List.take_eq_take_min]
      rfl
    next => rfl

variable (located : task.disassembler.Located) (short : task.disassembler.Short)
include located short

theorem stop_lt {address : Nat} {decoding : Decoding} (decodes : task.Decodes address decoding) :
    decoding.stop < word := by
  have inside := decodes.inside
  obtain ⟨window, _, decoded⟩ := decodes
  have start := located address window decoding decoded
  have length := short address window decoding decoded
  simp only [Segment.contains, Bool.and_eq_true, decide_eq_true_eq] at inside
  unfold Segment.Low Segment.stop at low
  unfold Decoding.stop
  omega

theorem step_eq (state : State) : step task state = .ok (task.step state) := by
  have moves := task.step_moves state
  generalize task.step state = outcome at moves
  cases moves with
  | finished pending =>
    simp only [step, pending]
    rfl
  | skipped pending seen =>
    simp only [step, pending, seen, if_true]
    rfl
  | outside pending fresh outside =>
    simp only [step, pending, fresh, window?_eq low, outside, ok_bind]
    rfl
  | undecodable pending fresh found failed =>
    simp only [step, pending, fresh, window?_eq low, found, failed, ok_bind]
    rfl
  | full pending fresh found decoded full =>
    simp only [step, pending, fresh, window?_eq low, found, decoded, full, ok_bind, if_true]
    rfl
  | @recorded address rest window decoding pending fresh found decoded room =>
    have fits := stop_lt low located short ⟨window, found, decoded⟩
    have next : following decoding = .ok (Discovery.Task.following decoding) := by
      unfold following Discovery.Task.following
      split
      · rw [stopOf, add_eq fits]
        rfl
      · rfl
    simp only [step, pending, fresh, window?_eq low, found, decoded, Nat.not_le.mpr room, next,
      ok_bind, if_false]
    rfl

theorem run_eq {fuel : Nat} {state : State} (enough : task.potential state ≤ fuel) :
    run task (fuel + 1) state = .ok (task.run state).value := by
  fun_induction Discovery.Task.run task state generalizing fuel with
  | case1 state finished =>
    rw [run, step_eq low located short, ok_bind, finished]
    rfl
  | case2 state failure failed =>
    rw [run, step_eq low located short, ok_bind, failed]
    rfl
  | case3 state next events advanced later =>
    rename_i further
    have less := Discovery.Task.potential_decreases advanced
    cases fuel with
    | zero => omega
    | succ fuel =>
      rw [run, step_eq low located short, ok_bind, advanced]
      exact further (by omega)

theorem discover_agrees (entry : Nat) : Agrees (discover task entry) (task.discover entry) := by
  have enough : task.potential { recorded := [], pending := [entry] } ≤ 2 * task.limit + 1 := by
    simp only [potential, List.length_singleton, List.length_nil]
    omega
  have ended := run_eq low located short enough
  unfold Agrees discover
  rw [Discovery.Task.result_discover, ended]
  rcases Discovery.Task.run_outcome (.start task entry) with
    ⟨final, inv, _, found⟩ | ⟨failure, _, failed⟩
  · rw [found]
    exact congrArg (fun row => Except.ok (Except.ok row)) (insertionSort_eq inv.distinct)
  · rw [failed]
    rfl

theorem parse_agrees (entry : Nat) : Agrees (parse task entry) (task.parse entry) := by
  apply Agrees.bind (discover_agrees low located short entry)
  intro found ended
  have traces := (Discovery.Task.discover_eq_ok_iff.mp ended).2
  have fits : ∀ i ∈ found.map Prod.snd, i.stop < word := by
    intro i member
    obtain ⟨⟨address, _⟩, inRow, rfl⟩ := List.mem_map.mp member
    exact stop_lt low located short (traces.decodes _ _ inRow)
  dsimp only
  rw [rooms_eq fits]
  cases Routine.overlap? (found.map Prod.snd) with
  | none => rfl
  | some pair => rfl

/-- A checked traversal that ends shows what function is reconstructed. -/
theorem result_parse_eq {entry : Nat} {found : List (Nat × Decoding)}
    (ended : (discover task entry).run = .ok (.ok found))
    (apart : Routine.overlap? (found.map Prod.snd) = none) :
    (task.parse entry).result = .ok (task.routineOf entry found) := by
  have agrees := discover_agrees low located short entry
  unfold Agrees at agrees
  rw [ended] at agrees
  rw [Discovery.Task.result_parse, ← Except.ok.inj agrees]
  dsimp only [Except.bind]
  rw [← Routine.overlap?_eq, apart]

theorem fits_of_parse {entry : Nat} {routine : Routine}
    (ended : (task.parse entry).result = .ok routine) : routine.Fits := by
  obtain ⟨_, _, found, traces, rfl⟩ := (Discovery.Task.parse_eq_ok_iff located).mp ended
  refine ⟨low, ?_⟩
  intro i member
  obtain ⟨⟨address, _⟩, inRow, rfl⟩ := List.mem_map.mp member
  exact stop_lt low located short (traces.decodes _ _ inRow)

end Traversal

section Queries

variable {routine : Routine} (fits : routine.Fits)
include fits

theorem covers_eq {i : Decoding} (member : i ∈ routine.instructions) (address : Nat) :
    covers i address = .ok (i.covers address) := by
  have stop : stopOf i = .ok i.stop := add_eq (fits.ends i member)
  unfold covers Decoding.covers
  split
  next starts =>
    rw [stop, ok_bind, decide_eq_true starts, Bool.true_and]
    rfl
  next above =>
    rw [decide_eq_false above, Bool.false_and]
    rfl

theorem holds_eq (address : Nat) : holds routine address = .ok (routine.contains address) := by
  have le := partitionPoint_le (fun i : Decoding => i.address ≤ address) routine.instructions
  unfold holds Routine.contains
  rw [getLast?_takeWhile_eq]
  generalize partitionPoint (fun i : Decoding => i.address ≤ address) routine.instructions = count
    at le
  dsimp only
  split
  next => rfl
  next positive =>
    have inside : count - 1 < routine.instructions.length := by omega
    have there := List.getElem?_eq_getElem inside
    rw [sub_eq (Nat.one_le_iff_ne_zero.mpr positive), ok_bind, get_eq there, ok_bind, there]
    exact covers_eq fits (List.getElem_mem inside) address

theorem callTargets_eq : callTargets routine = .ok (routine.callTargets none).value := by
  have each : ∀ i ∈ routine.instructions.filter Decoding.isCall,
      target? routine i = .ok (routine.target? i) := by
    intro i _
    rw [target?, bytesOf, bytesFrom?_eq fits.low.room]
    rfl
  rw [callTargets, mapM_eq_ok_of_forall each, ok_bind, List.filterMap_map]
  rfl

end Queries

end Checked

end Landmark
