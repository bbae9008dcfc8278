import Landmark.Proofs.Config
import Landmark.Proofs.LoadedModule.Functions
import Landmark.Proofs.LoadedModule.Specimen
import Landmark.Proofs.Segment.Entry
import Landmark.Proofs.Segment.Hits
import Landmark.Proofs.Survivor
import Landmark.Proofs.Symbol.Outcome

/-! # The steps that searches share

A search looks for a text, for an exported function and for the one survivor among its
candidates. Each of these steps has an answer or a reason not to have one, written down
here without the step, and for each step one of the two applies.
-/

namespace Landmark

open Log

/-- The end of a search that determines nothing. -/
def Halt.of (symbol : Symbol) (reason : Reason) : Halt :=
  .unresolved { symbol := symbol.text, reason }

/-- Where one of two descriptions always applies and each tells the result, the result is what they
describe. -/
theorem exact_of_total {ε α : Type} {result : Except ε α} {Finds : α → Prop} {Fails : ε → Prop}
    (found : ∀ value, Finds value → result = .ok value)
    (failed : ∀ fault, Fails fault → result = .error fault)
    (total : (∃ value, Finds value) ∨ ∃ fault, Fails fault) :
    (∀ value, result = .ok value ↔ Finds value) ∧
      ∀ fault, result = .error fault ↔ Fails fault := by
  rcases total with ⟨value, finds⟩ | ⟨fault, fails⟩
  · have ended := found value finds
    refine ⟨fun other => ⟨?_, found other⟩, fun other => ⟨?_, failed other⟩⟩
    · intro same
      exact Except.ok.inj (ended.symm.trans same) ▸ finds
    · intro same
      cases ended.symm.trans same
  · have ended := failed fault fails
    refine ⟨fun other => ⟨?_, found other⟩, fun other => ⟨?_, failed other⟩⟩
    · intro same
      cases ended.symm.trans same
    · intro same
      exact Except.error.inj (ended.symm.trans same) ▸ fails

/-- An opened module with both segments that are searched, and a configuration that can be
used. -/
structure Prepared (owner : LoadedModule) (config : Config) (rodata code : Segment) : Prop where
  opened : ∃ name view limits, (LoadedModule.load name view limits).result = .ok owner
  valid : config.validate = .ok ()
  read : owner.segment? config.segments.rodata = some rodata
  run : owner.segment? config.segments.code = some code

theorem eq_nil_iff_of_mem_iff {α : Type} {row : List α} {members : Set α}
    (same : ∀ value, value ∈ row ↔ value ∈ members) : row = [] ↔ members = ∅ := by
  rw [List.eq_nil_iff_forall_not_mem, Set.eq_empty_iff_forall_notMem]
  exact forall_congr' fun value => not_congr (same value)

theorem LoadedModule.disjoint_of_load {owner : LoadedModule} {name : String} {view : Image.View}
    {limits : OpeningLimits} (opened : (LoadedModule.load name view limits).result = .ok owner) :
    owner.segments.Pairwise fun a b => a.stop ≤ b.base := by
  obtain ⟨_, _, represents⟩ := LoadedModule.represents_of_load opened
  exact represents.disjoint

namespace Prepared

variable {owner : LoadedModule} {config : Config} {rodata code : Segment}

theorem disjoint (prepared : Prepared owner config rodata code) :
    owner.segments.Pairwise fun a b => a.stop ≤ b.base := by
  obtain ⟨_, _, _, opened⟩ := prepared.opened
  exact LoadedModule.disjoint_of_load opened

theorem member (prepared : Prepared owner config rodata code) : code ∈ owner.segments :=
  List.mem_of_find?_eq_some prepared.run

theorem usable (prepared : Prepared owner config rodata code) : config.Valid :=
  Config.validate_eq_ok_iff.mp prepared.valid

theorem required_rodata (prepared : Prepared owner config rodata code) :
    owner.requireSegment config.segments.rodata = .ok rodata :=
  LoadedModule.requireSegment_eq_ok_iff.mpr prepared.read

theorem required_code (prepared : Prepared owner config rodata code) :
    owner.requireSegment config.segments.code = .ok code :=
  LoadedModule.requireSegment_eq_ok_iff.mpr prepared.run

/-- What is computed of a module whose table is in order holds of one that is prepared. -/
theorem of_computed {name : String} {view : Image.View} {limits : OpeningLimits}
    {holds : LoadedModule → Bool} (valid : config.validate = .ok ())
    (computed : (LoadedModule.openInOrder? name view limits).any (fun owner =>
      (owner.segment? config.segments.rodata).isSome &&
        (owner.segment? config.segments.code).isSome && holds owner) = true) :
    ∃ owner rodata code, (LoadedModule.load name view limits).result = .ok owner ∧
      Prepared owner config rodata code ∧ holds owner = true := by
  obtain ⟨owner, found, checked⟩ := (Option.any_eq_true _ _).mp computed
  simp only [Bool.and_eq_true, Option.isSome_iff_exists] at checked
  obtain ⟨⟨⟨rodata, read⟩, code, run⟩, held⟩ := checked
  have opened := LoadedModule.load_of_openInOrder? found
  exact ⟨owner, rodata, code, opened, ⟨⟨name, view, limits, opened⟩, valid, read, run⟩, held⟩

end Prepared

namespace Search

variable {symbol : Symbol} {segment : Segment} {text : String} {owner : LoadedModule}
  {name : String}

/-! ## The text -/

/-- The text occurs once, at the place; occurrences that share bytes count as one. -/
def Anchored (segment : Segment) (text : String) (place : Nat) : Prop :=
  segment.Hits (Text.Utf8.encode text) [place]

inductive Unanchored (segment : Segment) (text : String) : Reason → Prop where
  | absent : segment.Hits (Text.Utf8.encode text) [] →
    Unanchored segment text (.anchorNotFound text segment.name)
  | repeated {row : List Nat} : segment.Hits (Text.Utf8.encode text) row → 2 ≤ row.length →
    Unanchored segment text (.ambiguousAnchor text segment.name row.length)

theorem anchored_or_unanchored (segment : Segment) (text : String) :
    (∃ place, Anchored segment text place) ∨ ∃ reason, Unanchored segment text reason := by
  have hits := Segment.hits_find segment (Text.Utf8.encode text)
  match row : segment.find (Text.Utf8.encode text) with
  | [] => exact .inr ⟨_, .absent (row ▸ hits)⟩
  | [place] => exact .inl ⟨place, Segment.find_eq_iff.mp row⟩
  | first :: second :: rest =>
    exact .inr ⟨_, .repeated (Segment.find_eq_iff.mp row) (by simp)⟩

theorem result_uniqueAnchor_of_anchored {place : Nat} (anchored : Anchored segment text place) :
    (uniqueAnchor symbol segment text).result = .ok place :=
  uniqueAnchor_eq_ok_iff.mpr (Segment.find_eq_iff.mpr anchored)

theorem result_uniqueAnchor_of_unanchored {reason : Reason}
    (unanchored : Unanchored segment text reason) :
    (uniqueAnchor symbol segment text).result = .error (.of symbol reason) := by
  cases unanchored with
  | absent hits =>
    rw [uniqueAnchor, Segment.find_eq_iff.mpr hits]
    rfl
  | @repeated row hits many =>
    rw [uniqueAnchor, Segment.find_eq_iff.mpr hits]
    match row, many with
    | first :: second :: rest, _ => rfl

/-! ## The exported function -/

inductive Unexported (symbol : Symbol) (owner : LoadedModule) (name : String) : Halt → Prop where
  | missing : owner.export? name = none →
    Unexported symbol owner name (.of symbol (.missingExport name))
  | outside {address : Nat} : owner.export? name = some address → ¬owner.Inside address →
    Unexported symbol owner name (.fatal (.addressOutOfBounds owner.scope address))

theorem exports_or_unexported (symbol : Symbol) (owner : LoadedModule) (name : String) :
    (∃ address, owner.Exports name address) ∨ ∃ halt, Unexported symbol owner name halt := by
  cases exported : owner.export? name with
  | none => exact .inr ⟨_, .missing exported⟩
  | some address =>
    by_cases inside : owner.Inside address
    · exact .inl ⟨address, exported, inside⟩
    · exact .inr ⟨_, .outside exported inside⟩

variable (disjoint : owner.segments.Pairwise fun a b => a.stop ≤ b.base)
include disjoint

theorem result_requiredExport_of_exports {address : Nat} (exports : owner.Exports name address) :
    (requiredExport symbol owner name).result = .ok address :=
  requiredExport_eq_ok_iff.mpr
    ((LoadedModule.result_function?_eq_some_iff disjoint).mpr exports)

theorem result_requiredExport_of_unexported {halt : Halt}
    (unexported : Unexported symbol owner name halt) :
    (requiredExport symbol owner name).result = .error halt := by
  cases unexported with
  | missing missing =>
    simp only [requiredExport, Attempt.result_bind, result_ofAttempt,
      LoadedModule.result_function?_of_missing missing, mapError_ok, ok_bind, result_giveUp]
    rfl
  | outside exported outside =>
    simp only [requiredExport, Attempt.result_bind, result_ofAttempt,
      LoadedModule.result_function?_of_outside disjoint exported outside, mapError_error,
      error_bind]

theorem exports_of_requiredExport {address : Nat}
    (ended : (requiredExport symbol owner name).result = .ok address) :
    owner.Exports name address :=
  (LoadedModule.result_function?_eq_some_iff disjoint).mp (requiredExport_eq_ok_iff.mp ended)

theorem result_requireInside_of_outside {address : Nat} (outside : ¬owner.Inside address) :
    (requireInside symbol owner address).result =
      .error (.of symbol (.outsideModule address)) := by
  rw [requireInside, if_neg (mt (LoadedModule.contains_iff_inside disjoint).mp outside)]
  rfl

theorem result_requireInside_of_inside {address : Nat} (inside : owner.Inside address) :
    (requireInside symbol owner address).result = .ok () :=
  requireInside_eq_ok_iff.mpr ((LoadedModule.contains_iff_inside disjoint).mpr inside)

omit disjoint

/-! ## The survivor -/

inductive Undecided {α : Type} (members : Set α) : Reason → Prop where
  | none : members = ∅ → Undecided members .noSurvivor
  | several : 2 ≤ members.ncard → Undecided members (.ambiguousSurvivors members.ncard)

variable {α : Type} [DecidableEq α] {row : List α} {members : Set α}
  (same : ∀ value, value ∈ row ↔ value ∈ members)
include same

theorem decided_or_undecided :
    (∃ value, members = {value}) ∨ ∃ reason, Undecided members reason := by
  have left := (Survivor.ofCandidates_eq_iff same).mp rfl
  generalize Survivor.ofCandidates row = outcome at left
  cases left with
  | none empty => exact .inr ⟨_, .none empty⟩
  | one single => exact .inl ⟨_, single⟩
  | ambiguous many => exact .inr ⟨_, .several many⟩

theorem result_single_of_decided {value : α} (decided : members = {value}) :
    (single symbol (.ofCandidates row)).result = .ok value :=
  single_eq_ok_iff.mpr ((Survivor.ofCandidates_eq_iff same).mpr (.one decided))

theorem result_single_of_undecided {reason : Reason} (undecided : Undecided members reason) :
    (single symbol (.ofCandidates row)).result = .error (.of symbol reason) := by
  cases undecided with
  | none empty =>
    rw [(Survivor.ofCandidates_eq_iff same).mpr (.none empty)]
    rfl
  | several many =>
    rw [(Survivor.ofCandidates_eq_iff same).mpr (.ambiguous many)]
    rfl

end Search

end Landmark
