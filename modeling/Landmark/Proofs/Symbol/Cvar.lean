import Landmark.Proofs.Checked.Symbol
import Landmark.Proofs.Symbol.Steps
import Landmark.Proofs.X86.Taken

/-! # When the index accessor is found

The entries in front of the mentions are candidates for the constructor; those are kept
from which a function comes that covers a mention. The search comes to a call of the
only one that is kept, or says why not. A candidate strictly inside the code is inside
the module, and in no other segment, so no candidate is ever a fault.
-/

namespace Landmark.Symbol.Cvar

open Log Search

section Exact

variable [Decoder] {owner : LoadedModule} {config : Config} {rodata code : Segment}

/-- A function that covers a mention comes of an entry strictly inside the code. -/
def Constructs (owner : LoadedModule) (code : Segment) (limit : Nat) (references : List Nat)
    (entry : Nat) (routine : Routine) : Prop :=
  code.base < entry ∧ entry < code.stop ∧ (owner.task code limit).Yields entry routine ∧
    ∃ reference ∈ references, routine.Covers reference

/-- The entries of the functions that are kept. -/
def Constructors (owner : LoadedModule) (config : Config) (code : Segment) (anchor : Nat) :
    Set Nat :=
  { entry | entry ∈ code.Entries config.entries config.cvar.entryWindow anchor ∧
    ∃ routine, Constructs owner code config.parser.maxInstructions (code.references anchor) entry
      routine }

/-- Where the search ends with an address. -/
def Finds (owner : LoadedModule) (config : Config) (rodata code : Segment) (accessor : Nat) :
    Prop :=
  ∃ anchor entry routine, Anchored rodata config.cvar.anchor anchor ∧
    Constructors owner config code anchor = {entry} ∧
    (owner.task code config.parser.maxInstructions).Yields entry routine ∧
    (routine.callTargets none).value[config.cvar.accessorCallIndex]? = some accessor ∧
    owner.Inside accessor

/-- Where it ends without one. Each reason takes for granted that none above it applies. -/
inductive Fails (owner : LoadedModule) (config : Config) (rodata code : Segment) :
    Reason → Prop where
  | unanchored {reason : Reason} : Unanchored rodata config.cvar.anchor reason →
    Fails owner config rodata code reason
  | noEntries {anchor : Nat} : Anchored rodata config.cvar.anchor anchor →
    code.Entries config.entries config.cvar.entryWindow anchor = ∅ →
    Fails owner config rodata code .noCandidates
  | undecided {anchor : Nat} {reason : Reason} : Anchored rodata config.cvar.anchor anchor →
    code.Entries config.entries config.cvar.entryWindow anchor ≠ ∅ →
    Undecided (Constructors owner config code anchor) reason →
    Fails owner config rodata code reason
  | fewCalls {anchor entry : Nat} {routine : Routine} :
    Anchored rodata config.cvar.anchor anchor →
    Constructors owner config code anchor = {entry} →
    (owner.task code config.parser.maxInstructions).Yields entry routine →
    (routine.callTargets none).value.length ≤ config.cvar.accessorCallIndex →
    Fails owner config rodata code (.tooFewCalls (routine.callTargets none).value.length
      (config.cvar.accessorCallIndex + 1))
  | outside {anchor entry accessor : Nat} {routine : Routine} :
    Anchored rodata config.cvar.anchor anchor →
    Constructors owner config code anchor = {entry} →
    (owner.task code config.parser.maxInstructions).Yields entry routine →
    (routine.callTargets none).value[config.cvar.accessorCallIndex]? = some accessor →
    ¬owner.Inside accessor → Fails owner config rodata code (.outsideModule accessor)

/-- The function at an entry, when it covers a mention. -/
def covering? (owner : LoadedModule) (code : Segment) (limit : Nat) (references : List Nat)
    (entry : Nat) : Option Routine :=
  if code.contains entry then
    ((owner.task code limit).parse entry).result.toOption.filter fun routine =>
      references.any routine.contains
  else none

section Constructor

variable {limit entry : Nat} {references : List Nat} {routine : Routine}

theorem covering?_eq_some_iff :
    covering? owner code limit references entry = some routine ↔
      Constructs owner code limit references entry routine := by
  have located := @LoadedModule.located_task owner code limit
  unfold covering?
  split
  next inside =>
    obtain ⟨below, above⟩ := Segment.contains_iff.mp inside
    rw [Option.filter_eq_some_iff, Discovery.Task.toOption_parse_eq_some_iff located,
      List.any_eq_true]
    constructor
    · rintro ⟨yields, reference, mention, held⟩
      exact ⟨below, above, yields, reference, mention, Routine.covers_of_contains held⟩
    · rintro ⟨_, _, yields, reference, mention, covers⟩
      have held := (Routine.contains_iff_covers (yields.apart located)).mpr covers
      exact ⟨yields, reference, mention, held⟩
  next outside =>
    constructor
    · intro none
      cases none
    · rintro ⟨below, above, _⟩
      exact absurd (Segment.contains_iff.mpr ⟨below, above⟩) outside

theorem result_constructor? (disjoint : owner.segments.Pairwise fun a b => a.stop ≤ b.base)
    (member : code ∈ owner.segments) :
    (constructor? owner code limit references entry).result =
      .ok (covering? owner code limit references entry) := by
  unfold constructor? covering?
  split
  next inside =>
    obtain ⟨below, above⟩ := Segment.contains_iff.mp inside
    have found := (LoadedModule.segmentAt?_eq_some_iff disjoint).mpr ⟨member, below, above⟩
    simp only [Attempt.result_bind, LoadedModule.result_routineAt? found, ok_bind]
    cases ((owner.task code limit).parse entry).result.toOption with
    | none => rfl
    | some routine =>
      simp only [Option.filter_some]
      split <;> rfl
  next outside => rfl

theorem result_constructors (disjoint : owner.segments.Pairwise fun a b => a.stop ≤ b.base)
    (member : code ∈ owner.segments) (entries : List Nat) :
    (entries.mapM (constructor? owner code limit references)).result =
      .ok (entries.map (covering? owner code limit references)) := by
  rw [Attempt.result_mapM]
  exact mapM_eq_ok_of_forall fun entry _ => result_constructor? disjoint member

end Constructor

section Kept

variable {anchor : Nat} {entries : List Nat}

/-- The functions that are kept, in the order of their entries. -/
def kept (owner : LoadedModule) (config : Config) (code : Segment) (anchor : Nat)
    (entries : List Nat) : List Routine :=
  entries.filterMap
    (covering? owner code config.parser.maxInstructions (code.references anchor))

theorem filterMap_covering? :
    (entries.map (covering? owner code config.parser.maxInstructions
      (code.references anchor))).filterMap id = kept owner config code anchor entries := by
  rw [kept, List.filterMap_map]
  rfl

theorem mem_kept_iff {routine : Routine} :
    routine ∈ kept owner config code anchor entries ↔ ∃ entry ∈ entries,
      Constructs owner code config.parser.maxInstructions (code.references anchor) entry
        routine := by
  simp only [kept, List.mem_filterMap, covering?_eq_some_iff]

variable (listed : ∀ entry, entry ∈ entries ↔
  entry ∈ code.Entries config.entries config.cvar.entryWindow anchor)
include listed

theorem mem_map_kept_iff (entry : Nat) :
    entry ∈ (kept owner config code anchor entries).map Routine.entry ↔
      entry ∈ Constructors owner config code anchor := by
  rw [List.mem_map]
  constructor
  · rintro ⟨routine, member, rfl⟩
    obtain ⟨entry, candidate, constructs⟩ := mem_kept_iff.mp member
    have same : routine.entry = entry := constructs.2.2.1.entry_eq
    rw [same]
    exact ⟨(listed entry).mp candidate, routine, constructs⟩
  · rintro ⟨candidate, routine, constructs⟩
    exact ⟨routine, mem_kept_iff.mpr ⟨entry, (listed entry).mpr candidate, constructs⟩,
      constructs.2.2.1.entry_eq⟩

theorem find?_kept {entry : Nat} {routine : Routine}
    (member : entry ∈ Constructors owner config code anchor)
    (yields : (owner.task code config.parser.maxInstructions).Yields entry routine) :
    (kept owner config code anchor entries).find? (fun other => other.entry == entry) =
      some routine := by
  obtain ⟨other, inKept, here⟩ := List.mem_map.mp ((mem_map_kept_iff listed entry).mpr member)
  cases chosen : (kept owner config code anchor entries).find?
      fun other => other.entry == entry with
  | none =>
    rw [List.find?_eq_none] at chosen
    exact absurd (beq_iff_eq.mpr here) (chosen other inKept)
  | some found =>
    obtain ⟨origin, _, constructs⟩ := mem_kept_iff.mp (List.mem_of_find?_eq_some chosen)
    have starts : found.entry = entry := by simpa using List.find?_some chosen
    obtain rfl : origin = entry := constructs.2.2.1.entry_eq.symm.trans starts
    rw [constructs.2.2.1.unique yields]

end Kept

omit [Decoder] in
theorem exists_entries (prepared : Prepared owner config rodata code) (anchor : Nat) :
    ∃ entries, (code.entriesReferencing config.entries config.cvar.entryWindow anchor).result =
        .ok entries ∧ ∀ entry, entry ∈ entries ↔
          entry ∈ code.Entries config.entries config.cvar.entryWindow anchor :=
  Segment.exists_entriesReferencing_eq prepared.usable.power prepared.usable.cvarWindow anchor

theorem entries_ne_empty {anchor entry : Nat}
    (kept : Constructors owner config code anchor = {entry}) :
    code.Entries config.entries config.cvar.entryWindow anchor ≠ ∅ := by
  intro empty
  have member : entry ∈ Constructors owner config code anchor := kept ▸ Set.mem_singleton entry
  exact absurd member.1 (empty ▸ Set.notMem_empty entry)

/-- What comes of the function that was chosen. -/
def accessorOf (owner : LoadedModule) (config : Config) : Option Routine → Except Halt Nat
  | none => .error (.of .cvar .noSurvivor)
  | some constructor =>
    let calls := (constructor.callTargets none).value
    match calls[config.cvar.accessorCallIndex]? with
    | none => .error (.of .cvar (.tooFewCalls calls.length (config.cvar.accessorCallIndex + 1)))
    | some accessor => (requireInside .cvar owner accessor).result.map fun _ => accessor

section Run

variable (prepared : Prepared owner config rodata code) {anchor : Nat}
  (anchored : Anchored rodata config.cvar.anchor anchor)
include prepared anchored

theorem result_of_noEntries
    (none : code.Entries config.entries config.cvar.entryWindow anchor = ∅) :
    (resolve owner config).result = .error (.of .cvar .noCandidates) := by
  obtain ⟨entries, near, listed⟩ := exists_entries prepared anchor
  have empty := (eq_nil_iff_of_mem_iff listed).mpr none
  simp only [resolve, search, result_within, Attempt.result_bind, result_ofExcept, result_ofAttempt,
    prepared.required_rodata, prepared.required_code, mapError_ok, ok_bind,
    result_uniqueAnchor_of_anchored anchored, near, empty]
  rfl

/-- Where there are candidates, all hangs on the functions that are kept. -/
theorem result_of_entries
    (filled : code.Entries config.entries config.cvar.entryWindow anchor ≠ ∅) :
    ∃ constructors : List Routine, (∀ entry, entry ∈ constructors.map Routine.entry ↔
        entry ∈ Constructors owner config code anchor) ∧
      (∀ {entry routine}, entry ∈ Constructors owner config code anchor →
        (owner.task code config.parser.maxInstructions).Yields entry routine →
        constructors.find? (fun other => other.entry == entry) = some routine) ∧
      (resolve owner config).result =
        (single .cvar (.ofCandidates (constructors.map Routine.entry))).result >>= fun entry =>
          accessorOf owner config (constructors.find? fun routine => routine.entry == entry) := by
  obtain ⟨entries, near, listed⟩ := exists_entries prepared anchor
  have candidates := mt (eq_nil_iff_of_mem_iff listed).mp filled
  refine ⟨kept owner config code anchor entries, mem_map_kept_iff listed, find?_kept listed, ?_⟩
  simp only [resolve, search, result_within, Attempt.result_bind, result_ofExcept, result_ofAttempt,
    prepared.required_rodata, prepared.required_code, mapError_ok, ok_bind,
    result_uniqueAnchor_of_anchored anchored, near, List.isEmpty_iff, candidates, if_false,
    result_constructors prepared.disjoint prepared.member, filterMap_covering?,
    Attempt.result_emit]
  congr 1
  funext entry
  cases (kept owner config code anchor entries).find? fun routine => routine.entry == entry with
  | none => rfl
  | some constructor =>
    simp only [accessorOf, Attempt.result_bind, Attempt.result_lift, ok_bind]
    cases (constructor.callTargets none).value[config.cvar.accessorCallIndex]? with
    | none => rfl
    | some accessor =>
      simp only [Attempt.result_bind]
      cases (requireInside .cvar owner accessor).result <;> rfl

theorem result_of_decided {entry : Nat} {routine : Routine}
    (decided : Constructors owner config code anchor = {entry})
    (yields : (owner.task code config.parser.maxInstructions).Yields entry routine) :
    (resolve owner config).result = accessorOf owner config (some routine) := by
  obtain ⟨constructors, members, found, ended⟩ :=
    result_of_entries prepared anchored (entries_ne_empty decided)
  have member : entry ∈ Constructors owner config code anchor := decided ▸ Set.mem_singleton entry
  rw [ended, result_single_of_decided members decided, ok_bind, found member yields]

end Run

theorem result_of_finds (prepared : Prepared owner config rodata code) {accessor : Nat}
    (finds : Finds owner config rodata code accessor) :
    (resolve owner config).result = .ok accessor := by
  obtain ⟨anchor, entry, routine, anchored, decided, yields, called, inside⟩ := finds
  rw [result_of_decided prepared anchored decided yields]
  simp only [accessorOf, called, result_requireInside_of_inside prepared.disjoint inside]
  rfl

theorem result_of_fails (prepared : Prepared owner config rodata code) {reason : Reason}
    (fails : Fails owner config rodata code reason) :
    (resolve owner config).result = .error (.of .cvar reason) := by
  cases fails with
  | unanchored unanchored =>
    simp only [resolve, search, result_within, Attempt.result_bind, result_ofExcept,
      prepared.required_rodata, prepared.required_code, mapError_ok, ok_bind,
      result_uniqueAnchor_of_unanchored unanchored, error_bind]
  | noEntries anchored none => exact result_of_noEntries prepared anchored none
  | undecided anchored filled undecided =>
    obtain ⟨constructors, members, _, ended⟩ := result_of_entries prepared anchored filled
    rw [ended, result_single_of_undecided members undecided, error_bind]
  | fewCalls anchored decided yields few =>
    rw [result_of_decided prepared anchored decided yields]
    simp only [accessorOf, List.getElem?_eq_none few]
  | outside anchored decided yields called outside =>
    rw [result_of_decided prepared anchored decided yields]
    simp only [accessorOf, called, result_requireInside_of_outside prepared.disjoint outside]
    rfl

theorem finds_or_fails (prepared : Prepared owner config rodata code) :
    (∃ accessor, Finds owner config rodata code accessor) ∨
      ∃ reason, Fails owner config rodata code reason := by
  rcases anchored_or_unanchored rodata config.cvar.anchor with
    ⟨anchor, anchored⟩ | ⟨reason, unanchored⟩
  · obtain ⟨entries, _, listed⟩ := exists_entries prepared anchor
    by_cases empty : code.Entries config.entries config.cvar.entryWindow anchor = ∅
    · exact .inr ⟨_, .noEntries anchored empty⟩
    · rcases decided_or_undecided (mem_map_kept_iff listed) with
        ⟨entry, decided⟩ | ⟨reason, undecided⟩
      · have member : entry ∈ Constructors owner config code anchor :=
          decided ▸ Set.mem_singleton entry
        obtain ⟨_, routine, _, _, yields, _⟩ := member
        cases called : (routine.callTargets none).value[config.cvar.accessorCallIndex]? with
        | none =>
          exact .inr ⟨_, .fewCalls anchored decided yields (List.getElem?_eq_none_iff.mp called)⟩
        | some accessor =>
          by_cases inside : owner.Inside accessor
          · exact .inl ⟨accessor, anchor, entry, routine, anchored, decided, yields, called, inside⟩
          · exact .inr ⟨_, .outside anchored decided yields called inside⟩
      · exact .inr ⟨_, .undecided anchored empty undecided⟩
  · exact .inr ⟨_, .unanchored unanchored⟩

/-- **The search for the index accessor is exact**, both in what it finds and in why it finds
nothing. It always ends with an address or a reason. -/
theorem accessor_exact (prepared : Prepared owner config rodata code) :
    (∀ accessor, (resolve owner config).result = .ok accessor ↔
      Finds owner config rodata code accessor) ∧
    ∀ halt, (resolve owner config).result = .error halt ↔
      ∃ reason, Fails owner config rodata code reason ∧ halt = .of .cvar reason := by
  refine exact_of_total (fun _ => result_of_finds prepared) ?_ ?_
  · rintro _ ⟨reason, fails, rfl⟩
    exact result_of_fails prepared fails
  · rcases finds_or_fails prepared with found | ⟨reason, fails⟩
    · exact .inl found
    · exact .inr ⟨_, reason, fails, rfl⟩

end Exact

theorem accessor_of_complete : ∃ owner rodata code,
    Prepared owner Specimen.settings rodata code ∧
      Finds owner Specimen.settings rodata code 0x400187 := by
  have computed : (LoadedModule.openInOrder? "host.exe" Specimen.complete {}).any (fun owner =>
      (owner.segment? Specimen.settings.segments.rodata).isSome &&
        (owner.segment? Specimen.settings.segments.code).isSome &&
        (Checked.cvar owner Specimen.settings).run = .ok (.ok 0x400187)) = true := by
    decide +kernel
  obtain ⟨owner, rodata, code, opened, prepared, ended⟩ := Prepared.of_computed rfl computed
  have low := LoadedModule.low_of_load opened (by decide +kernel) (by decide +kernel)
  have agrees := Checked.cvar_agrees low X86.short_decoder prepared.usable (by decide)
  have resolved := Except.ok.inj (agrees.symm.trans (of_decide_eq_true ended))
  exact ⟨owner, rodata, code, prepared, ((accessor_exact prepared).1 _).mp resolved⟩

end Landmark.Symbol.Cvar
