import Landmark.Proofs.Checked.Routine
import Landmark.Proofs.LoadedModule.Lookup
import Landmark.Proofs.Segment.References
import Landmark.Proofs.X86.Taken
import Mathlib.Data.List.Forall2

/-! # Decoding again

A function keeps only the extents of its instructions, and whoever asks for operands decodes the
bytes again. A traversal shows the disassembler at most fifteen of them, a later question all up to
the end of the segment. Where a decoding depends on the bytes it takes and on no others, both see
the same instruction, so nothing that is asked of a function later can fail or differ.
-/

namespace Landmark

namespace Routine

/-- The instruction of which the traversal kept the extent, decoded of what it was shown. -/
structure Saw (routine : Routine) (kept : Decoding) (whole : X86.Instruction) : Prop where
  shown : ∃ bytes, routine.segment.bytesFrom? kept.address = some bytes ∧
    routine.disassembler.detail kept.address (bytes.take X86.maxLength) = .ok whole
  length : whole.length = kept.length
  mnemonic : whole.mnemonic = kept.mnemonic
  category : whole.mnemonic.category = kept.category

/-- Asked for targets, a function reports that it leaves out this call. -/
def Skips (routine : Routine) (call : Decoding) : Prop :=
  ∃ event ∈ (routine.callTargets none).events, event.message = "skipping indirect call" ∧
    ("call", .address call.address) ∈ event.fields

/-- Everything that is asked of a function is answered by the instructions that the traversal
saw. -/
structure Redecodes (routine : Routine) (row : List X86.Instruction) : Prop where
  saw : List.Forall₂ routine.Saw routine.instructions row
  inside : ∀ i ∈ routine.instructions,
    routine.segment.base < i.address ∧ i.stop ≤ routine.segment.stop
  again : List.Forall₂ (fun i whole => routine.detail? i = some whole) routine.instructions row
  listed : routine.listing = List.zipWith
    (fun i whole => Hex.paddedAddress 10 i.address ++ "  " ++ whole.text) routine.instructions row
  ascending : routine.instructions.Pairwise fun a b => a.address < b.address
  called : (routine.callTargets none).value =
    (row.filter fun whole => whole.mnemonic.category == .call).filterMap
      X86.Instruction.nearTarget?
  /-- A call that is left out names no near address, and is reported as indirect. -/
  indirect : ∀ i whole, (i, whole) ∈ routine.instructions.zip row →
    whole.mnemonic.category = .call →
    (∃ target ∈ (routine.callTargets none).value, whole.nearTarget? = some target) ∨
      (∀ width target, .nearTarget width target ∉ whole.operands.head?) ∧ routine.Skips i
  closed : ∀ i whole target, (i, whole) ∈ routine.instructions.zip row → i.category.branches →
    whole.nearTarget? = some target → ∃ j ∈ routine.instructions, j.address = target

theorem exists_forall₂ {α β : Type} {related : α → β → Prop} {row : List α}
    (each : ∀ a ∈ row, ∃ b, related a b) : ∃ other, List.Forall₂ related row other := by
  induction row with
  | nil => exact ⟨[], .nil⟩
  | cons first rest ih =>
    obtain ⟨b, here⟩ := each first List.mem_cons_self
    obtain ⟨others, there⟩ := ih fun a member => each a (List.mem_cons_of_mem _ member)
    exact ⟨b :: others, .cons here there⟩

variable {routine : Routine} {detail : Nat → Bytes → Except DecodeError X86.Instruction}
  {segment : Segment} {entry limit : Nat} {row : List X86.Instruction} {kept : Decoding}
  {whole : X86.Instruction}

/-- What a traversal saw is seen again in all the bytes up to the end of the segment. -/
theorem Saw.detail?_eq (steady : Steady detail) (reader : routine.disassembler = .ofDetail detail)
    (saw : routine.Saw kept whole) : routine.detail? kept = some whole := by
  obtain ⟨bytes, found, decoded⟩ := saw.shown
  rw [reader] at decoded
  have few := (steady.length decoded).2.1
  have again : detail kept.address bytes = .ok whole := by
    apply steady.alone decoded
    rw [List.take_take, Nat.min_eq_left few]
  rw [detail?, bytesOf, found, reader]
  exact toOption_eq_some_iff.mpr again

theorem Saw.target?_eq (steady : Steady detail) (reader : routine.disassembler = .ofDetail detail)
    (saw : routine.Saw kept whole) : routine.target? kept = whole.nearTarget? := by
  have again := saw.detail?_eq steady reader
  rw [detail?, reader] at again
  rw [target?, reader]
  change (detail kept.address (routine.bytesOf kept)).toOption.bind _ = _
  change (detail kept.address (routine.bytesOf kept)).toOption = _ at again
  rw [again, Option.bind_some]

theorem Saw.isCall_eq (saw : routine.Saw kept whole) :
    kept.isCall = (whole.mnemonic.category == .call) := by
  rw [Decoding.isCall, saw.category]

theorem Saw.stop_le (steady : Steady detail) (reader : routine.disassembler = .ofDetail detail)
    (saw : routine.Saw kept whole) : kept.stop ≤ routine.segment.stop := by
  obtain ⟨bytes, found, decoded⟩ := saw.shown
  rw [reader] at decoded
  have fits := (steady.length decoded).2.2
  obtain ⟨offset, placed, rfl⟩ := Option.map_eq_some_iff.mp found
  obtain ⟨above, below, rfl⟩ := Segment.offset?_eq_some_iff.mp placed
  rw [List.length_take, List.length_drop] at fits
  have length := saw.length
  unfold Decoding.stop Segment.stop Segment.size at *
  omega

/-! ## What is asked of all of them -/

variable (steady : Steady detail) (reader : routine.disassembler = .ofDetail detail)
include steady reader

theorem listing_eq (saw : List.Forall₂ routine.Saw routine.instructions row) :
    routine.listing = List.zipWith
      (fun i whole => Hex.paddedAddress 10 i.address ++ "  " ++ whole.text)
      routine.instructions row := by
  unfold listing
  generalize routine.instructions = kept at saw
  induction saw with
  | nil => rfl
  | @cons kept whole _ _ here _ ih =>
    have again := toOption_eq_some_iff.mp (here.detail?_eq steady reader)
    have text : routine.instructionText kept = whole.text := by rw [instructionText, again]
    rw [List.map_cons, List.zipWith_cons_cons, text, ih]

theorem value_callTargets_eq (saw : List.Forall₂ routine.Saw routine.instructions row) :
    (routine.callTargets none).value =
      (row.filter fun whole => whole.mnemonic.category == .call).filterMap
        X86.Instruction.nearTarget? := by
  change (routine.instructions.filter Decoding.isCall).filterMap routine.target? = _
  generalize routine.instructions = kept at saw
  induction saw with
  | nil => rfl
  | @cons kept whole _ _ here _ ih =>
    rw [List.filter_cons, List.filter_cons, here.isCall_eq]
    split
    · rw [List.filterMap_cons, List.filterMap_cons, here.target?_eq steady reader, ih]
    · exact ih

theorem skips_of_target?_eq_none (member : kept ∈ routine.instructions)
    (saw : routine.Saw kept whole) (isCall : whole.mnemonic.category = .call)
    (none : whole.nearTarget? = none) : routine.Skips kept := by
  have among : kept ∈ routine.calls Option.none := by
    refine List.mem_filter.mpr ⟨member, ?_⟩
    rw [saw.isCall_eq, isCall]
    rfl
  have unknown : (routine.target? kept).isNone := by
    rw [saw.target?_eq steady reader, none]
    rfl
  obtain ⟨event, reports, message, fields⟩ : ∃ event, routine.reports kept = [event] ∧
      event.message = "skipping indirect call" ∧ ("call", .address kept.address) ∈ event.fields :=
    ⟨_, if_pos unknown, rfl, List.mem_cons_of_mem _ List.mem_cons_self⟩
  refine ⟨event, List.mem_flatMap.mpr ⟨kept, among, ?_⟩, message, fields⟩
  rw [reports]
  exact List.mem_singleton_self _

/-- A call has its target among those that are found, or names none and is left out. -/
theorem called_or_skipped (saw : List.Forall₂ routine.Saw routine.instructions row)
    (pair : (kept, whole) ∈ routine.instructions.zip row)
    (isCall : whole.mnemonic.category = .call) :
    (∃ target ∈ (routine.callTargets none).value, whole.nearTarget? = some target) ∨
      (∀ width target, .nearTarget width target ∉ whole.operands.head?) ∧ routine.Skips kept := by
  have inRow := List.of_mem_zip pair
  cases near : whole.nearTarget? with
  | some target =>
    refine .inl ⟨target, ?_, rfl⟩
    rw [value_callTargets_eq steady reader saw]
    refine List.mem_filterMap.mpr ⟨whole, List.mem_filter.mpr ⟨inRow.2, ?_⟩, near⟩
    rw [isCall]
    rfl
  | none =>
    have here := List.forall₂_zip saw pair
    refine .inr ⟨fun width target first => ?_,
      skips_of_target?_eq_none steady reader inRow.1 here isCall near⟩
    rw [X86.Instruction.nearTarget?_eq_some_iff.mpr ⟨width, first⟩] at near
    cases near

end Routine

namespace Discovery.Task

variable {task : Task} {detail : Nat → Bytes → Except DecodeError X86.Instruction}
  {entry : Nat} {routine : Routine}

/-- What a row of instructions keeps was decoded of what the traversal was shown. -/
theorem exists_saw (reader : task.disassembler = .ofDetail detail)
    (yields : task.Yields entry routine) {kept : Decoding} (member : kept ∈ routine.instructions) :
    ∃ whole window, task.window? kept.address = some window ∧
      detail kept.address window = .ok whole ∧ routine.Saw kept whole := by
  obtain ⟨_, _, found, traces, rfl⟩ := yields
  obtain ⟨⟨address, _⟩, inRow, rfl⟩ := List.mem_map.mp member
  obtain ⟨window, shown, decoded⟩ := traces.decodes _ _ inRow
  rw [reader] at decoded
  obtain ⟨whole, read, rfl⟩ := Disassembler.ofDetail_decode_eq_ok_iff.mp decoded
  refine ⟨whole, window, shown, read, ⟨?_, rfl, rfl, rfl⟩⟩
  unfold window? at shown
  split at shown
  next =>
    obtain ⟨bytes, there, rfl⟩ := Option.map_eq_some_iff.mp shown
    refine ⟨bytes, there, ?_⟩
    change task.disassembler.detail address _ = _
    rw [reader] at read ⊢
    exact read
  next => cases shown

/-- Where a branch leads was put on the stack, from the bytes that the traversal was shown. -/
theorem exists_address_eq (steady : Steady detail) (reader : task.disassembler = .ofDetail detail)
    (yields : task.Yields entry routine) {i : Decoding} (member : i ∈ routine.instructions)
    {whole : X86.Instruction} (saw : routine.Saw i whole) (branches : i.category.branches)
    {target : Nat} (near : whole.nearTarget? = some target) :
    ∃ j ∈ routine.instructions, j.address = target := by
  have located : task.disassembler.Located := reader ▸ Disassembler.located_ofDetail
  have reader' : routine.disassembler = .ofDetail detail := yields.disassembler_eq.trans reader
  obtain ⟨other, window, shown, decoded, here⟩ := task.exists_saw reader yields member
  have again := here.detail?_eq steady reader'
  rw [saw.detail?_eq steady reader'] at again
  obtain rfl := Option.some.inj again
  have leads : task.disassembler.target? i.address window = some target := by
    rw [reader]
    change (detail i.address window).toOption.bind _ = _
    rw [decoded]
    exact near
  obtain ⟨_, shown', decodes⟩ := yields.decodes located member
  obtain rfl := Option.some.inj (shown.symm.trans shown')
  have reaches := (yields.reaches_iff located).mpr ⟨i, member, rfl⟩
  exact (yields.reaches_iff located).mp (reaches.tail (.branch shown decodes branches leads))

end Discovery.Task

namespace Routine

variable {detail : Nat → Bytes → Except DecodeError X86.Instruction} {segment : Segment}
  {entry limit : Nat} {routine : Routine}

/-- **What was recorded is decoded again.** Of a disassembler whose instructions take one byte to
fifteen and depend on these alone, every function that is reconstructed keeps instructions that lie
in its segment and are the same when they are decoded of all that stands behind them, so a listing
shows each of them, the targets of calls are those of the calls that have one, and no branch leads
out of the function. -/
theorem redecodes_of_parse (steady : Steady detail)
    (parsed : (parse segment (.ofDetail detail) entry limit).result = .ok routine) :
    ∃ row, Redecodes routine row := by
  let task : Discovery.Task := { segment, disassembler := .ofDetail detail, limit }
  have located : task.disassembler.Located := Disassembler.located_ofDetail
  have yields : task.Yields entry routine := (Discovery.Task.parse_eq_ok_iff located).mp parsed
  have reader : routine.disassembler = .ofDetail detail := yields.disassembler_eq
  obtain ⟨row, saw⟩ := exists_forall₂ fun kept member => by
    obtain ⟨whole, _, _, _, saw⟩ := task.exists_saw rfl yields member
    exact ⟨whole, saw⟩
  refine ⟨row, ?_⟩
  exact
    { saw
      inside := by
        intro i member
        obtain ⟨_, _, _, _, here⟩ := task.exists_saw rfl yields member
        have inside := (yields.decodes located member).inside
        rw [← yields.segment_eq] at inside
        exact ⟨(Segment.contains_iff.mp inside).1, here.stop_le steady reader⟩
      again := saw.imp fun _ _ here => here.detail?_eq steady reader
      listed := listing_eq steady reader saw
      ascending := yields.ascend located
      called := value_callTargets_eq steady reader saw
      indirect := fun i whole pair isCall => called_or_skipped steady reader saw pair isCall
      closed := by
        intro i whole target pair branches near
        have here := List.forall₂_zip saw pair
        exact task.exists_address_eq steady rfl yields (List.of_mem_zip pair).1 here branches near }

/-- A branch over a direct call, a call through a register and a return that is the last byte of
the segment. -/
def branching : Discovery.Task where
  segment :=
    { name := ".text"
      base := 0x401000
      data := [0xCC, 0x74, 0x05, 0xE8, 0xF8, 0x0F, 0x00, 0x00, 0xFF, 0xD0, 0xC3] }
  disassembler := X86.disassembler 32
  limit := 4

def branchingRow : List (Nat × Decoding) :=
  [(0x401001, { address := 0x401001, length := 2, mnemonic := .jcc .e, category := .conditional }),
    (0x401003, { address := 0x401003, length := 5, mnemonic := .call, category := .call }),
    (0x401008, { address := 0x401008, length := 2, mnemonic := .call, category := .call }),
    (0x40100A, { address := 0x40100A, length := 1, mnemonic := .ret, category := .return })]

theorem result_parse_branching :
    (branching.parse 0x401001).result = .ok (branching.routineOf 0x401001 branchingRow) :=
  Checked.result_parse_eq (by unfold Segment.Low; decide) (Disassembler.located_ofBits 32)
    (Disassembler.short_ofBits X86.short_decoder 32) (by decide +kernel) (by decide)

theorem branching_redecodes :
    Steady (X86.decode 32) ∧
    (parse branching.segment (.ofDetail (X86.decode 32)) 0x401001 4).result =
      .ok (branching.routineOf 0x401001 branchingRow) ∧
    ∃ row, Redecodes (branching.routineOf 0x401001 branchingRow) row := by
  have steady := Decoder.steady_detail X86.steady_decoder 32
  exact ⟨steady, result_parse_branching, redecodes_of_parse steady result_parse_branching⟩

end Routine

end Landmark
