import Landmark.Proofs.Bisection
import Landmark.Proofs.Checked.LoadedModule
import Landmark.Proofs.Symbol.Globals
import Landmark.X86.Decode

/-! # Where an address lies

The lookup of an address tries two segments, and it comes to what a look at each of them in turn
comes to. Everything that asks whether an address lies in the module asks the lookup, so a check
that is made a second time cannot fail.
-/

namespace Landmark

open Log

namespace LoadedModule

variable {owner : LoadedModule} {segment : Segment} {name : String} {address limit : Nat}
  {view : Image.View} {limits : OpeningLimits} {fault : Fatal}

/-- What starts below an address stands in front of what does not, so the place between the two
can be found by halving. -/
theorem lt_partitionPoint_iff {place : Nat}
    (ascending : owner.segments.Pairwise fun a b => a.base ≤ b.base)
    (there : owner.segments[place]? = some segment) :
    place < Checked.partitionPoint (fun segment => segment.base < address) owner.segments ↔
      segment.base < address := by
  have falls : Falls (fun segment : Segment => segment.base < address) owner.segments := by
    refine ascending.imp fun {a b} order below => ?_
    simp only [decide_eq_true_eq] at below ⊢
    omega
  rw [falls.partitionPoint_eq, ← falls.holds_iff there, decide_eq_true_eq]

/-! ## The lookup -/

section Apart

variable (disjoint : owner.segments.Pairwise fun a b => a.stop ≤ b.base)
include disjoint

theorem segmentAt?_eq_none_iff : owner.segmentAt? address = none ↔ ¬owner.Inside address := by
  rw [← contains_iff_inside disjoint, contains, Bool.not_eq_true, Option.isSome_eq_false_iff,
    Option.isNone_iff_eq_none]

/-- A segment stands behind all that end below it and in front of all that start above it. -/
theorem exists_split (member : segment ∈ owner.segments) :
    ∃ front behind, owner.segments = front ++ segment :: behind ∧
      (∀ other ∈ front, other.stop ≤ segment.base) ∧
      ∀ other ∈ behind, segment.stop ≤ other.base := by
  obtain ⟨front, behind, split⟩ := List.append_of_mem member
  rw [split] at disjoint
  obtain ⟨_, later, earlier⟩ := List.pairwise_append.mp disjoint
  exact ⟨front, behind, split, fun other place => earlier other place segment List.mem_cons_self,
    (List.pairwise_cons.mp later).1⟩

/-- The segments around an address are the one that is found, or none. -/
theorem filter_eq_toList_segmentAt? (address : Nat) :
    owner.segments.filter (fun segment => segment.base < address ∧ address < segment.stop) =
      (owner.segmentAt? address).toList := by
  cases found : owner.segmentAt? address with
  | none =>
    have outside := (segmentAt?_eq_none_iff disjoint).mp found
    simp only [Option.toList_none, List.filter_eq_nil_iff, decide_eq_true_eq]
    exact fun segment member around => outside ⟨segment, member, around⟩
  | some segment =>
    obtain ⟨member, below, above⟩ := (segmentAt?_eq_some_iff disjoint).mp found
    obtain ⟨front, behind, split, earlier, later⟩ := exists_split disjoint member
    have none_in_front : front.filter
        (fun segment => segment.base < address ∧ address < segment.stop) = [] := by
      simp only [List.filter_eq_nil_iff, decide_eq_true_eq]
      intro other place around
      have ends := earlier other place
      omega
    have none_behind : behind.filter
        (fun segment => segment.base < address ∧ address < segment.stop) = [] := by
      simp only [List.filter_eq_nil_iff, decide_eq_true_eq]
      intro other place around
      have starts := later other place
      omega
    have here : decide (segment.base < address ∧ address < segment.stop) = true :=
      decide_eq_true ⟨below, above⟩
    rw [split, List.filter_append, none_in_front, List.filter_cons, if_pos here, none_behind]
    rfl

theorem aside_of_mem {other : Segment} (member : segment ∈ owner.segments)
    (among : other ∈ owner.segments) :
    segment.base = other.base ∧ segment.stop = other.stop ∨
      (other.stop ≤ segment.base ∨ segment.stop ≤ other.base) := by
  obtain ⟨front, behind, split, earlier, later⟩ := exists_split disjoint member
  rw [split] at among
  cases List.mem_append.mp among with
  | inl inFront => exact .inr (.inl (earlier other inFront))
  | inr onward =>
    cases List.mem_cons.mp onward with
    | inl same =>
      rw [same]
      exact .inl ⟨rfl, rfl⟩
    | inr inBehind => exact .inr (.inr (later other inBehind))

/-- No segment reaches over the edge of another, be it empty or not. -/
theorem not_inside_edge (member : segment ∈ owner.segments) :
    ¬owner.Inside segment.base ∧ ¬owner.Inside segment.stop := by
  have ordered : segment.base ≤ segment.stop := Nat.le_add_right _ _
  constructor
  · rintro ⟨other, among, below, above⟩
    cases aside_of_mem disjoint member among with
    | inl same => omega
    | inr apart => omega
  · rintro ⟨other, among, below, above⟩
    cases aside_of_mem disjoint member among with
    | inl same => omega
    | inr apart => omega

/-! ## The checks -/

theorem checkBounds_eq (address : Nat) :
    owner.checkBounds address = if owner.Inside address then .ok ()
      else .error (.addressOutOfBounds owner.scope address) := by
  unfold checkBounds
  simp only [contains_iff_inside disjoint]

theorem requireSegmentAt_of_not_inside (outside : ¬owner.Inside address) :
    owner.requireSegmentAt address = .error (.addressOutOfBounds owner.scope address) := by
  rw [requireSegmentAt, (segmentAt?_eq_none_iff disjoint).mpr outside]

theorem exists_requireSegmentAt_iff :
    (∃ segment, owner.requireSegmentAt address = .ok segment) ↔ owner.Inside address := by
  constructor
  · rintro ⟨segment, required⟩
    by_contra outside
    rw [requireSegmentAt_of_not_inside disjoint outside] at required
    cases required
  · rintro ⟨segment, around⟩
    exact ⟨segment, by rw [requireSegmentAt, (segmentAt?_eq_some_iff disjoint).mpr around]⟩

theorem result_function?_eq_error_iff :
    (owner.function? name).result = .error fault ↔ ∃ address, owner.export? name = some address ∧
      ¬owner.Inside address ∧ fault = .addressOutOfBounds owner.scope address := by
  cases exported : owner.export? name with
  | none => simp [result_function?_of_missing exported]
  | some address =>
    by_cases inside : owner.Inside address
    · simp [function?_of_inside disjoint exported inside, inside]
    · simp [result_function?_of_outside disjoint exported inside, inside, eq_comm]

theorem result_routineAt?_eq_error_iff [Decoder] :
    (owner.routineAt? address limit).result = .error fault ↔
      ¬owner.Inside address ∧ fault = .addressOutOfBounds owner.scope address := by
  by_cases inside : owner.Inside address
  · obtain ⟨answer, ended, _⟩ := @exists_result_routineAt? _ _ limit _ disjoint inside
    simp [ended, inside]
  · have refused : (owner.routineAt? address limit).result =
        .error (.addressOutOfBounds owner.scope address) := by
      simp only [routineAt?, Attempt.result_bind, Attempt.result_ofExcept,
        requireSegmentAt_of_not_inside disjoint inside, error_bind]
    simp [refused, inside, eq_comm]

end Apart

/-- The search for the globals ends with a fatal fault only where its export does. -/
theorem result_globals_eq_fatal_iff (opened : (load name view limits).result = .ok owner)
    {config : Config} :
    (Symbol.Globals.resolve owner config).result = .error (.fatal fault) ↔
      (Search.requiredExport .globals owner config.globals.function).result =
        .error (.fatal fault) := by
  have disjoint := disjoint_of_load opened
  constructor
  · intro failed
    cases ((Symbol.Globals.resolve_exact disjoint).2 _).mp failed with
    | unexported unexported =>
      exact Search.result_requiredExport_of_unexported disjoint unexported
  · intro failed
    simp only [Symbol.Globals.resolve, Symbol.Globals.search, Search.result_within,
      Attempt.result_bind, failed, error_bind]

/-- Addresses are located as a look at each segment in turn would locate them. -/
structure Locates [Decoder] (owner : LoadedModule) : Prop where
  found : ∀ address segment, owner.segmentAt? address = some segment ↔
    segment ∈ owner.segments ∧ segment.base < address ∧ address < segment.stop
  /-- There is at most one segment around an address. -/
  scanned : ∀ address,
    owner.segments.filter (fun segment => segment.base < address ∧ address < segment.stop) =
      (owner.segmentAt? address).toList
  missing : ∀ address, owner.segmentAt? address = none ↔ ¬owner.Inside address
  edges : ∀ segment ∈ owner.segments,
    owner.segmentAt? segment.base = none ∧ owner.segmentAt? segment.stop = none
  contained : ∀ address, owner.contains address = true ↔ owner.Inside address
  bounded : ∀ address, owner.checkBounds address = if owner.Inside address then .ok ()
    else .error (.addressOutOfBounds owner.scope address)
  function : ∀ name fault, (owner.function? name).result = .error fault ↔
    ∃ address, owner.export? name = some address ∧ ¬owner.Inside address ∧
      fault = .addressOutOfBounds owner.scope address
  routine : ∀ address limit fault, (owner.routineAt? address limit).result = .error fault ↔
    ¬owner.Inside address ∧ fault = .addressOutOfBounds owner.scope address
  /-- An address that has passed the check has a segment. -/
  passed : ∀ address, owner.checkBounds address = .ok () →
    ∃ segment, owner.requireSegmentAt address = .ok segment
  /-- So has an export that a search requires. -/
  exported : ∀ symbol name address,
    (Search.requiredExport symbol owner name).result = .ok address →
      ∃ segment, owner.requireSegmentAt address = .ok segment
  globals : ∀ config fault,
    (Symbol.Globals.resolve owner config).result = .error (.fatal fault) ↔
      (Search.requiredExport .globals owner config.globals.function).result =
        .error (.fatal fault)
  /-- The segments that start below an address stand in front of all others. -/
  parted : ∀ address place segment, owner.segments[place]? = some segment →
    (place < Checked.partitionPoint (fun segment => segment.base < address) owner.segments ↔
      segment.base < address)
  /-- Looked up by position, the two segments that are tried are there or are not asked. -/
  machine : ∀ address, Checked.segmentAt? owner address = .ok (owner.segmentAt? address)

/-- **The lookup of an address is exact.** -/
theorem locates_of_load [Decoder] (opened : (load name view limits).result = .ok owner) :
    Locates owner := by
  have disjoint := disjoint_of_load opened
  obtain ⟨_, _, represents⟩ := represents_of_load opened
  refine {
    found := fun _ _ => segmentAt?_eq_some_iff disjoint
    scanned := filter_eq_toList_segmentAt? disjoint
    missing := fun _ => segmentAt?_eq_none_iff disjoint
    edges := fun segment member => ?_
    contained := fun _ => contains_iff_inside disjoint
    bounded := checkBounds_eq disjoint
    function := fun _ _ => result_function?_eq_error_iff disjoint
    routine := fun _ _ _ => result_routineAt?_eq_error_iff disjoint
    passed := fun address held => ?_
    exported := fun symbol name address required => ?_
    globals := fun _ _ => result_globals_eq_fatal_iff opened
    parted := fun _ _ _ => lt_partitionPoint_iff represents.ascending
    machine := Checked.segmentAt?_eq owner }
  · have outside := not_inside_edge disjoint member
    exact ⟨(segmentAt?_eq_none_iff disjoint).mpr outside.1,
      (segmentAt?_eq_none_iff disjoint).mpr outside.2⟩
  · rw [exists_requireSegmentAt_iff disjoint]
    rw [checkBounds_eq disjoint] at held
    by_contra outside
    rw [if_neg outside] at held
    cases held
  · rw [exists_requireSegmentAt_iff disjoint]
    exact (Search.exports_of_requiredExport disjoint required).2

end LoadedModule

/-- An image in which the segment of the code is empty and starts where that of the data does. -/
def Specimen.codeless : Image.View := image "c" [] [0x63, 0, 0, 0]

namespace LoadedModule

theorem codeless_locates : ∃ owner,
    (load "host.exe" Specimen.codeless {}).result = .ok owner ∧ Locates owner ∧
      owner.segments.map Segment.base = [0x400160, 0x400160] ∧
      owner.segmentAt? 0x400160 = none ∧
      (owner.segmentAt? 0x400161).map Segment.name = some ".rdata" := by
  have computed : (openInOrder? "host.exe" Specimen.codeless {}).any (fun owner =>
      owner.segments.map Segment.base = [0x400160, 0x400160] ∧
      owner.segmentAt? 0x400160 = none ∧
      (owner.segmentAt? 0x400161).map Segment.name = some ".rdata") = true := by decide +kernel
  obtain ⟨owner, found, holds⟩ := (Option.any_eq_true _ _).mp computed
  have opened := load_of_openInOrder? found
  exact ⟨owner, opened, locates_of_load opened, of_decide_eq_true holds⟩

end LoadedModule

end Landmark
