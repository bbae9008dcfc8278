import Landmark.Proofs.Checked.Routine
import Landmark.Proofs.Image.Export
import Landmark.Proofs.Image.Grammar
import Landmark.Proofs.LoadedModule.Functions

/-! # Asking a module, checked

An image that ends well below the last address leaves room behind all its segments and
exports, since segments lie in it and exports less than 2³² above it. Its segments are
looked up by positions that are counted first, and so are always there.
-/

namespace Landmark

open Log

namespace LoadedModule

/-- The image leaves room for 34 bits of address behind it. -/
structure Low (owner : LoadedModule) : Prop where
  segments : ∀ segment ∈ owner.segments, segment.Low
  exports : ∀ entry ∈ owner.exports.entries, owner.base + entry.rva < Checked.word

variable {name : String} {view : Image.View} {limits : OpeningLimits} {owner : LoadedModule}

theorem low_of_load (opened : (load name view limits).result = .ok owner)
    (base : view.base + 0x400000000 < Checked.word)
    (stop : view.stop + 0x400000000 < Checked.word) : owner.Low := by
  obtain ⟨outline, _, represents⟩ := represents_of_load opened
  constructor
  · intro segment member
    obtain ⟨header, _, mirrors⟩ := represents.exists_mirrors member
    have inside := mirrors.inside.2
    unfold Segment.Low
    omega
  · intro entry member
    have low := Image.rva_lt_of_readExports represents.exports member
    unfold LoadedModule.base
    rw [represents.shown]
    omega

/-- The address of an export can be written down. -/
theorem Low.export?_lt (low : owner.Low) {wanted : String} {address : Nat}
    (found : owner.export? wanted = some address) : address < Checked.word := by
  obtain ⟨entry, listed, here⟩ := Option.bind_eq_some_iff.mp found
  split at here
  · cases here
  · exact Option.some.inj here ▸
      low.exports entry (List.mem_reverse.mp (List.mem_of_find?_eq_some listed))

/-- Where the image ends below the last address, so do all segments. -/
theorem stop_le_of_load (opened : (load name view limits).result = .ok owner) {segment : Segment}
    (member : segment ∈ owner.segments) : segment.stop ≤ view.stop := by
  obtain ⟨outline, _, represents⟩ := represents_of_load opened
  obtain ⟨header, _, mirrors⟩ := represents.exists_mirrors member
  exact mirrors.inside.2

theorem size_lt_of_load (opened : (load name view limits).result = .ok owner) {segment : Segment}
    (member : segment ∈ owner.segments) : segment.size < 2 ^ 32 := by
  obtain ⟨outline, ⟨_, _, _, read⟩, represents⟩ := represents_of_load opened
  obtain ⟨header, listed, mirrors⟩ := represents.exists_mirrors member
  exact mirrors.size ▸ Image.mappedSize_lt_of_readOutline read listed

/-- A module has the width of its image, which is one of two. -/
theorem bits_of_load (opened : (load name view limits).result = .ok owner) :
    owner.bits = 32 ∨ owner.bits = 64 := by
  obtain ⟨outline, _, represents⟩ := represents_of_load opened
  rw [represents.width, widthOf]
  cases outline.headers.optional.layout with
  | narrow => exact .inl rfl
  | wide => exact .inr rfl

end LoadedModule

namespace Checked

def holding? (candidate : Option Segment) (address : Nat) : Checked (Option Segment) := do
  match candidate with
  | some segment => if ← contains segment address then return some segment else return none
  | none => return none

def segmentAt? (owner : LoadedModule) (address : Nat) : Checked (Option Segment) := do
  let count := partitionPoint (fun segment => segment.base < address) owner.segments
  match ← holding? owner.segments[count]? address with
  | some segment => return some segment
  | none =>
    if count = 0 then return none
    else holding? owner.segments[← sub count 1]? address

def inModule (owner : LoadedModule) (address : Nat) : Checked Bool := do
  return (← segmentAt? owner address).isSome

def segment? (owner : LoadedModule) (name : String) : Checked (Option Segment) := do
  match owner.segments.findIdx? fun segment => segment.name == name with
  | some place => return some (← get owner.segments place)
  | none => return none

def requireSegment (owner : LoadedModule) (name : String) : Guarded Fatal Segment := do
  match ← ExceptT.lift (segment? owner name) with
  | some segment => return segment
  | none => throw (.missingSegment owner.name name)

def requireSegmentAt (owner : LoadedModule) (address : Nat) : Guarded Fatal Segment := do
  match ← ExceptT.lift (segmentAt? owner address) with
  | some segment => return segment
  | none => throw (.addressOutOfBounds owner.scope address)

def requireInModule (owner : LoadedModule) (address : Nat) : Guarded Fatal Unit := do
  if ← ExceptT.lift (inModule owner address) then return ()
  else throw (.addressOutOfBounds owner.scope address)

def export? (owner : LoadedModule) (name : String) : Checked (Option Nat) := do
  match owner.exports.find? name with
  | none => return none
  | some entry =>
    if entry.forwarder.isSome then return none else return some (← add owner.base entry.rva)

def function? (owner : LoadedModule) (name : String) : Guarded Fatal (Option Nat) := do
  match ← ExceptT.lift (export? owner name) with
  | some address =>
    requireInModule owner address
    return some address
  | none => return none

def routineAt? [Decoder] (owner : LoadedModule) (address limit : Nat) :
    Guarded Fatal (Option Routine) := do
  requireInModule owner address
  let segment ← requireSegmentAt owner address
  match ← ExceptT.lift (parse (owner.task segment limit) address).run with
  | .ok routine => return some routine
  | .error _ => return none

variable {owner : LoadedModule}

theorem holding?_eq (candidate : Option Segment) (address : Nat) :
    holding? candidate address =
      .ok (candidate.filter fun segment => segment.contains address) := by
  cases candidate with
  | none => rfl
  | some segment =>
    unfold holding?
    dsimp only
    rw [contains_eq, ok_bind, Option.filter_some]
    split <;> rfl

theorem segmentAt?_eq (owner : LoadedModule) (address : Nat) :
    segmentAt? owner address = .ok (owner.segmentAt? address) := by
  unfold segmentAt? LoadedModule.segmentAt?
  dsimp only
  rw [head?_dropWhile_eq, getLast?_takeWhile_eq]
  generalize partitionPoint (fun segment : Segment => segment.base < address) owner.segments =
    count
  rw [holding?_eq, ok_bind]
  cases (owner.segments[count]?).filter fun segment => segment.contains address with
  | some segment => rfl
  | none =>
    dsimp only
    split
    next => rfl
    next positive =>
      rw [sub_eq (Nat.one_le_iff_ne_zero.mpr positive), ok_bind, holding?_eq]

theorem inModule_eq (owner : LoadedModule) (address : Nat) :
    inModule owner address = .ok (owner.contains address) := by
  rw [inModule, segmentAt?_eq]
  rfl

theorem segment?_eq (owner : LoadedModule) (name : String) :
    segment? owner name = .ok (owner.segment? name) := by
  unfold segment? LoadedModule.segment?
  rw [List.find?_eq_bind_findIdx?_getElem?]
  cases found : owner.segments.findIdx? fun segment => segment.name == name with
  | none => rfl
  | some place =>
    obtain ⟨inside, _⟩ := List.findIdx?_eq_some_iff_getElem.mp found
    have there := List.getElem?_eq_getElem inside
    dsimp only
    rw [get_eq there, ok_bind, Option.bind_some, there]
    rfl

theorem requireSegment_agrees (owner : LoadedModule) (name : String) :
    Agrees (requireSegment owner name) (Attempt.ofExcept (owner.requireSegment name)) := by
  rw [requireSegment, segment?_eq, lift_ok_bind, LoadedModule.requireSegment]
  cases owner.segment? name <;> rfl

theorem requireSegmentAt_agrees (owner : LoadedModule) (address : Nat) :
    Agrees (requireSegmentAt owner address)
      (Attempt.ofExcept (owner.requireSegmentAt address)) := by
  rw [requireSegmentAt, segmentAt?_eq, lift_ok_bind, LoadedModule.requireSegmentAt]
  cases owner.segmentAt? address <;> rfl

theorem requireInModule_agrees (owner : LoadedModule) (address : Nat) :
    Agrees (requireInModule owner address) (Attempt.ofExcept (owner.checkBounds address)) := by
  rw [requireInModule, inModule_eq, lift_ok_bind, LoadedModule.checkBounds]
  split <;> rfl

section Export

variable {name : String}
  (room : ∀ address, owner.export? name = some address → address < word)
include room

theorem export?_eq : export? owner name = .ok (owner.export? name) := by
  unfold export? LoadedModule.export? at *
  cases found : owner.exports.find? name with
  | none => rfl
  | some entry =>
    rw [found, Option.bind_some] at room
    dsimp only
    rw [Option.bind_some]
    split
    next => rfl
    next direct =>
      rw [add_eq (room _ (if_neg direct))]
      rfl

theorem function?_agrees : Agrees (function? owner name) (owner.function? name) := by
  rw [function?, export?_eq room, lift_ok_bind, LoadedModule.function?]
  cases owner.export? name with
  | none => rfl
  | some address =>
    apply Agrees.bind (requireInModule_agrees owner address)
    intro _ _
    exact Agrees.pure _

end Export

variable (low : owner.Low) [Decoder] (short : Decoder.Short)
include low short

theorem parse_task_agrees {segment : Segment} (member : segment ∈ owner.segments)
    (address limit : Nat) : Agrees (parse (owner.task segment limit) address)
      ((owner.task segment limit).parse address) :=
  parse_agrees (low.segments segment member) LoadedModule.located_task
    (Disassembler.short_ofBits short owner.bits) address

theorem routineAt?_agrees (address limit : Nat) :
    Agrees (routineAt? owner address limit) (owner.routineAt? address limit) := by
  rw [routineAt?, requireInModule, inModule_eq, lift_ok_bind, requireSegmentAt, segmentAt?_eq,
    lift_ok_bind, LoadedModule.contains]
  cases found : owner.segmentAt? address with
  | none =>
    rw [LoadedModule.routineAt?, LoadedModule.requireSegmentAt, found]
    rfl
  | some segment =>
    -- The parse is run apart from the rest, which makes its failure an answer and no fault.
    have parsed :=
      parse_task_agrees low short (LoadedModule.of_segmentAt?_eq_some found).1 address limit
    unfold Agrees at parsed ⊢
    simp only [Option.isSome_some, if_true, pure_bind]
    rw [parsed, lift_ok_bind, LoadedModule.result_routineAt? found]
    cases ((owner.task segment limit).parse address).result <;> rfl

theorem fits_of_routineAt? {address limit : Nat} {routine : Routine}
    (ended : (owner.routineAt? address limit).result = .ok (some routine)) : routine.Fits := by
  cases found : owner.segmentAt? address with
  | none =>
    rw [LoadedModule.routineAt?, LoadedModule.requireSegmentAt, found] at ended
    cases ended
  | some segment =>
    rw [LoadedModule.result_routineAt? found] at ended
    have parsed := toOption_eq_some_iff.mp (Except.ok.inj ended)
    have member := (LoadedModule.of_segmentAt?_eq_some found).1
    exact fits_of_parse (low.segments segment member) LoadedModule.located_task
      (Disassembler.short_ofBits short owner.bits) parsed

end Checked

end Landmark
