import Landmark.Proofs.LoadedModule.Lookup
import Landmark.Proofs.Routine.Queries

/-! # Functions of a module

An address strictly inside a segment of an opened module is reconstructed in that very
segment, and the attempt has an answer whether a function comes of it or not. Only an
address outside all segments is a fault.
-/

namespace Landmark

open Log

namespace LoadedModule

variable {owner : LoadedModule} {segment : Segment} {name : String} {address limit : Nat}

/-- The export of a name stands for an address strictly inside a segment. -/
def Exports (owner : LoadedModule) (name : String) (address : Nat) : Prop :=
  owner.export? name = some address ∧ owner.Inside address

section Routines

variable [Decoder]

/-- The traversal of a function of the module. -/
def task (owner : LoadedModule) (segment : Segment) (limit : Nat) : Discovery.Task :=
  { segment, disassembler := .ofBits owner.bits, limit }

/-- A function comes of the address, in the segment around it. -/
def Yields (owner : LoadedModule) (limit address : Nat) (routine : Routine) : Prop :=
  ∃ segment ∈ owner.segments, segment.base < address ∧ address < segment.stop ∧
    (owner.task segment limit).Yields address routine

theorem located_task : (owner.task segment limit).disassembler.Located :=
  Disassembler.located_ofBits owner.bits

theorem result_routineAt? (found : owner.segmentAt? address = some segment) :
    (owner.routineAt? address limit).result =
      .ok ((owner.task segment limit).parse address).result.toOption := by
  have around : owner.requireSegmentAt address = .ok segment := by rw [requireSegmentAt, found]
  have parsed : (Routine.parse segment (.ofBits owner.bits) address limit).outcome.value =
    ((owner.task segment limit).parse address).result := rfl
  simp only [routineAt?, around, Attempt.result_bind, Attempt.result_ofExcept,
    Attempt.result_lift, ok_bind, parsed]
  cases ((owner.task segment limit).parse address).result with
  | ok routine => rfl
  | error failure => rfl

variable (disjoint : owner.segments.Pairwise fun a b => a.stop ≤ b.base)
include disjoint

theorem yields_iff (member : segment ∈ owner.segments) (below : segment.base < address)
    (above : address < segment.stop) {routine : Routine} :
    owner.Yields limit address routine ↔ (owner.task segment limit).Yields address routine := by
  constructor
  · rintro ⟨other, place, first, last, yields⟩
    have found := (segmentAt?_eq_some_iff disjoint).mpr ⟨member, below, above⟩
    have again := (segmentAt?_eq_some_iff disjoint).mpr ⟨place, first, last⟩
    obtain rfl := Option.some.inj (found.symm.trans again)
    exact yields
  · exact fun yields => ⟨segment, member, below, above, yields⟩

theorem exists_result_routineAt? (inside : owner.Inside address) :
    ∃ answer, (owner.routineAt? address limit).result = .ok answer ∧
      ∀ routine, answer = some routine ↔ owner.Yields limit address routine := by
  obtain ⟨segment, member, below, above⟩ := inside
  have found := (segmentAt?_eq_some_iff disjoint).mpr ⟨member, below, above⟩
  refine ⟨_, result_routineAt? found, fun routine => ?_⟩
  rw [yields_iff disjoint member below above]
  exact Discovery.Task.toOption_parse_eq_some_iff located_task

theorem result_routineAt?_of_yields {routine : Routine}
    (yields : owner.Yields limit address routine) :
    (owner.routineAt? address limit).result = .ok (some routine) := by
  have ⟨segment, member, below, above, _⟩ := yields
  obtain ⟨answer, ended, same⟩ :=
    @exists_result_routineAt? _ _ limit _ disjoint ⟨segment, member, below, above⟩
  rw [ended, (same routine).mpr yields]

theorem result_routineAt?_of_forall_not (inside : owner.Inside address)
    (fails : ∀ routine, ¬owner.Yields limit address routine) :
    (owner.routineAt? address limit).result = .ok none := by
  obtain ⟨answer, ended, same⟩ := @exists_result_routineAt? _ _ limit _ disjoint inside
  cases answer with
  | none => exact ended
  | some routine => exact absurd ((same routine).mp rfl) (fails routine)

end Routines

theorem result_function?_of_missing (missing : owner.export? name = none) :
    (owner.function? name).result = .ok none := by
  simp only [function?, missing, Attempt.result_bind, Attempt.result_emit, Attempt.result_pure]
  rfl

variable (disjoint : owner.segments.Pairwise fun a b => a.stop ≤ b.base)
include disjoint

theorem result_function?_of_outside (exported : owner.export? name = some address)
    (outside : ¬owner.Inside address) :
    (owner.function? name).result = .error (.addressOutOfBounds owner.scope address) := by
  have absent : ¬owner.contains address = true := mt (contains_iff_inside disjoint).mp outside
  simp only [function?, exported, Attempt.result_bind, Attempt.result_ofExcept, checkBounds, absent]
  rfl

theorem result_function?_eq_some_iff :
    (owner.function? name).result = .ok (some address) ↔ owner.Exports name address := by
  constructor
  · intro ended
    cases exported : owner.export? name with
    | none => cases (result_function?_of_missing exported).symm.trans ended
    | some other =>
      by_cases inside : owner.Inside other
      · cases (function?_of_inside disjoint exported inside).symm.trans ended
        exact ⟨exported, inside⟩
      · cases (result_function?_of_outside disjoint exported inside).symm.trans ended
  · exact fun exports => function?_of_inside disjoint exports.1 exports.2

end LoadedModule

end Landmark
