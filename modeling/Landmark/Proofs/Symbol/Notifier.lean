import Landmark.Proofs.Checked.Symbol
import Landmark.Proofs.Symbol.Steps
import Landmark.Proofs.X86.Taken

/-! # When the notifier is found

The exported function calls the notifier right behind another call, and the notifier is
a candidate by its own text. What counts is the set of such pairs among neighbouring
direct calls, so a pair that is called twice is one pair, and a candidate behind two
different calls is two.
-/

namespace Landmark.Symbol.Notifier

open Log Search

section Exact

variable {owner : LoadedModule} {config : Config} {rodata code : Segment}

/-- Each call of a candidate with the call in front of it. -/
def Pairs (calls : List Nat) (entries : Set Nat) : Set NotifierAddresses :=
  { pair | pair.notify ∈ entries ∧
    ∃ k, calls[k]? = some pair.instance ∧ calls[k + 1]? = some pair.notify }

/-- The entries that the mentions of the text may belong to. -/
abbrev entriesOf (config : Config) (code : Segment) (anchor : Nat) : Set Nat :=
  code.Entries config.entries config.notifier.entryWindow anchor

/-- Where the search ends with both addresses. -/
def Finds [Decoder] (owner : LoadedModule) (config : Config) (rodata code : Segment)
    (found : NotifierAddresses) : Prop :=
  ∃ anchor caller routine, Anchored rodata config.notifier.anchor anchor ∧
    owner.Exports config.notifier.callerExport caller ∧
    owner.Yields config.parser.maxInstructions caller routine ∧
    Pairs (routine.callTargets none).value (entriesOf config code anchor) = {found} ∧
    owner.Inside found.instance ∧ owner.Inside found.notify

/-- Where it ends without them. Each reason takes for granted that none above it applies. -/
inductive Fails [Decoder] (owner : LoadedModule) (config : Config) (rodata code : Segment) :
    Halt → Prop where
  | unanchored {reason : Reason} : Unanchored rodata config.notifier.anchor reason →
    Fails owner config rodata code (.of .notifier reason)
  | noEntries {anchor : Nat} : Anchored rodata config.notifier.anchor anchor →
    entriesOf config code anchor = ∅ → Fails owner config rodata code (.of .notifier .noCandidates)
  | unexported {anchor : Nat} {halt : Halt} : Anchored rodata config.notifier.anchor anchor →
    entriesOf config code anchor ≠ ∅ →
    Unexported .notifier owner config.notifier.callerExport halt →
    Fails owner config rodata code halt
  | unparsed {anchor caller : Nat} : Anchored rodata config.notifier.anchor anchor →
    entriesOf config code anchor ≠ ∅ → owner.Exports config.notifier.callerExport caller →
    (∀ routine, ¬owner.Yields config.parser.maxInstructions caller routine) →
    Fails owner config rodata code (.of .notifier (.parseFailed caller))
  | undecided {anchor caller : Nat} {routine : Routine} {reason : Reason} :
    Anchored rodata config.notifier.anchor anchor →
    entriesOf config code anchor ≠ ∅ → owner.Exports config.notifier.callerExport caller →
    owner.Yields config.parser.maxInstructions caller routine →
    Undecided (Pairs (routine.callTargets none).value (entriesOf config code anchor)) reason →
    Fails owner config rodata code (.of .notifier reason)
  | instanceOutside {anchor caller : Nat} {routine : Routine} {found : NotifierAddresses} :
    Anchored rodata config.notifier.anchor anchor →
    owner.Exports config.notifier.callerExport caller →
    owner.Yields config.parser.maxInstructions caller routine →
    Pairs (routine.callTargets none).value (entriesOf config code anchor) = {found} →
    ¬owner.Inside found.instance →
    Fails owner config rodata code (.of .notifier (.outsideModule found.instance))
  | notifyOutside {anchor caller : Nat} {routine : Routine} {found : NotifierAddresses} :
    Anchored rodata config.notifier.anchor anchor →
    owner.Exports config.notifier.callerExport caller →
    owner.Yields config.parser.maxInstructions caller routine →
    Pairs (routine.callTargets none).value (entriesOf config code anchor) = {found} →
    owner.Inside found.instance → ¬owner.Inside found.notify →
    Fails owner config rodata code (.of .notifier (.outsideModule found.notify))

theorem mem_neighbours_iff {calls : List Nat} {pair : NotifierAddresses} :
    pair ∈ neighbours calls ↔
      ∃ k, calls[k]? = some pair.instance ∧ calls[k + 1]? = some pair.notify := by
  fun_induction neighbours calls with
  | case1 first second rest ih =>
    rw [List.mem_cons, ih]
    constructor
    · rintro (rfl | ⟨k, one, other⟩)
      · exact ⟨0, rfl, rfl⟩
      · exact ⟨k + 1, one, other⟩
    · rintro ⟨k, one, other⟩
      cases k with
      | zero =>
        obtain rfl := Option.some.inj one
        obtain rfl := Option.some.inj other
        exact .inl rfl
      | succ k => exact .inr ⟨k, one, other⟩
  | case2 calls short =>
    constructor
    · intro member
      cases member
    · rintro ⟨k, one, other⟩
      match calls with
      | [] => cases one
      | [last] => cases other
      | first :: second :: rest => exact absurd rfl (short first second rest)

theorem mem_intersect_iff {left right : List Nat} {value : Nat} :
    value ∈ Survivor.intersect left right ↔ value ∈ left ∧ value ∈ right := by
  simp [Survivor.intersect]

/-- The pairs that the search takes into account. -/
def called (entries calls : List Nat) : List NotifierAddresses :=
  (neighbours calls).filter fun pair => (Survivor.intersect entries calls).contains pair.notify

theorem mem_called_iff {calls entries : List Nat} {members : Set Nat}
    (listed : ∀ entry, entry ∈ entries ↔ entry ∈ members) (pair : NotifierAddresses) :
    pair ∈ called entries calls ↔ pair ∈ Pairs calls members := by
  rw [called, List.mem_filter, mem_neighbours_iff, List.contains_iff_mem, mem_intersect_iff, listed]
  constructor
  · rintro ⟨side, candidate, _⟩
    exact ⟨candidate, side⟩
  · rintro ⟨candidate, k, one, other⟩
    exact ⟨⟨k, one, other⟩, candidate, List.mem_of_getElem? other⟩

theorem exists_entries (prepared : Prepared owner config rodata code) (anchor : Nat) :
    ∃ entries, (code.entriesReferencing config.entries config.notifier.entryWindow anchor).result =
        .ok entries ∧ ∀ entry, entry ∈ entries ↔ entry ∈ entriesOf config code anchor :=
  Segment.exists_entriesReferencing_eq prepared.usable.power prepared.usable.notifierWindow anchor

theorem entries_ne_empty {calls : List Nat} {entries : Set Nat} {found : NotifierAddresses}
    (decided : Pairs calls entries = {found}) : entries ≠ ∅ := by
  intro empty
  have member : found ∈ Pairs calls entries := decided ▸ Set.mem_singleton found
  exact absurd member.1 (empty ▸ Set.notMem_empty found.notify)

variable [Decoder]

/-- What comes of the calls of the exported function. -/
def pairOf (owner : LoadedModule) (entries calls : List Nat) : Except Halt NotifierAddresses := do
  let found ← (single .notifier (.ofCandidates (called entries calls))).result
  (requireInside .notifier owner found.instance).result
  (requireInside .notifier owner found.notify).result
  return found

section Run

variable (prepared : Prepared owner config rodata code) {anchor : Nat}
  (anchored : Anchored rodata config.notifier.anchor anchor)
include prepared anchored

theorem result_of_noEntries (none : entriesOf config code anchor = ∅) :
    (resolve owner config).result = .error (.of .notifier .noCandidates) := by
  obtain ⟨entries, near, listed⟩ := exists_entries prepared anchor
  have empty := (eq_nil_iff_of_mem_iff listed).mpr none
  simp only [resolve, search, result_within, Attempt.result_bind, result_ofExcept, result_ofAttempt,
    prepared.required_rodata, prepared.required_code, mapError_ok, ok_bind,
    result_uniqueAnchor_of_anchored anchored, near, empty]
  rfl

/-- Where there are candidates, all hangs on the exported function. -/
theorem result_of_entries (filled : entriesOf config code anchor ≠ ∅) :
    ∃ entries, (∀ entry, entry ∈ entries ↔ entry ∈ entriesOf config code anchor) ∧
      (resolve owner config).result = (do
        let caller ← (requiredExport .notifier owner config.notifier.callerExport).result
        match ← (ofAttempt (owner.routineAt? caller config.parser.maxInstructions)).result with
        | none => .error (.of .notifier (.parseFailed caller))
        | some routine => pairOf owner entries (routine.callTargets none).value) := by
  obtain ⟨entries, near, listed⟩ := exists_entries prepared anchor
  have candidates := mt (eq_nil_iff_of_mem_iff listed).mp filled
  refine ⟨entries, listed, ?_⟩
  simp only [resolve, search, result_within, Attempt.result_bind, result_ofExcept, result_ofAttempt,
    prepared.required_rodata, prepared.required_code, mapError_ok, ok_bind,
    result_uniqueAnchor_of_anchored anchored, near, List.isEmpty_iff, candidates, if_false]
  congr 1
  funext caller
  congr 1
  funext answer
  cases answer with
  | none => rfl
  | some routine =>
    simp only [pairOf, called, Attempt.result_bind, Attempt.result_lift, Attempt.result_emit,
      Attempt.result_pure, ok_bind]
    rfl

theorem result_of_yields {caller : Nat} {routine : Routine}
    (filled : entriesOf config code anchor ≠ ∅)
    (exports : owner.Exports config.notifier.callerExport caller)
    (yields : owner.Yields config.parser.maxInstructions caller routine) :
    ∃ entries, (∀ entry, entry ∈ entries ↔ entry ∈ entriesOf config code anchor) ∧
      (resolve owner config).result = pairOf owner entries (routine.callTargets none).value := by
  obtain ⟨entries, listed, ended⟩ := result_of_entries prepared anchored filled
  refine ⟨entries, listed, ?_⟩
  rw [ended, result_requiredExport_of_exports prepared.disjoint exports, ok_bind, result_ofAttempt,
    LoadedModule.result_routineAt?_of_yields prepared.disjoint yields, mapError_ok, ok_bind]

theorem result_of_decided {caller : Nat} {routine : Routine} {found : NotifierAddresses}
    (exports : owner.Exports config.notifier.callerExport caller)
    (yields : owner.Yields config.parser.maxInstructions caller routine)
    (decided : Pairs (routine.callTargets none).value (entriesOf config code anchor) = {found}) :
    (resolve owner config).result = do
      (requireInside .notifier owner found.instance).result
      (requireInside .notifier owner found.notify).result
      return found := by
  obtain ⟨entries, listed, ended⟩ :=
    result_of_yields prepared anchored (entries_ne_empty decided) exports yields
  rw [ended, pairOf, result_single_of_decided (mem_called_iff listed) decided, ok_bind]

end Run

theorem result_of_finds (prepared : Prepared owner config rodata code) {found : NotifierAddresses}
    (finds : Finds owner config rodata code found) :
    (resolve owner config).result = .ok found := by
  obtain ⟨anchor, caller, routine, anchored, exports, yields, decided, inside, told⟩ := finds
  rw [result_of_decided prepared anchored exports yields decided,
    result_requireInside_of_inside prepared.disjoint inside, ok_bind,
    result_requireInside_of_inside prepared.disjoint told, ok_bind]
  rfl

theorem result_of_fails (prepared : Prepared owner config rodata code) {halt : Halt}
    (fails : Fails owner config rodata code halt) :
    (resolve owner config).result = .error halt := by
  have disjoint := prepared.disjoint
  cases fails with
  | unanchored unanchored =>
    simp only [resolve, search, result_within, Attempt.result_bind, result_ofExcept,
      prepared.required_rodata, prepared.required_code, mapError_ok, ok_bind,
      result_uniqueAnchor_of_unanchored unanchored, error_bind]
  | noEntries anchored none => exact result_of_noEntries prepared anchored none
  | unexported anchored filled unexported =>
    obtain ⟨entries, _, ended⟩ := result_of_entries prepared anchored filled
    rw [ended, result_requiredExport_of_unexported disjoint unexported, error_bind]
  | unparsed anchored filled exports fails =>
    obtain ⟨entries, _, ended⟩ := result_of_entries prepared anchored filled
    rw [ended, result_requiredExport_of_exports disjoint exports, ok_bind, result_ofAttempt,
      LoadedModule.result_routineAt?_of_forall_not disjoint exports.2 fails, mapError_ok, ok_bind]
  | undecided anchored filled exports yields undecided =>
    obtain ⟨entries, listed, ended⟩ := result_of_yields prepared anchored filled exports yields
    rw [ended, pairOf, result_single_of_undecided (mem_called_iff listed) undecided, error_bind]
  | instanceOutside anchored exports yields decided outside =>
    rw [result_of_decided prepared anchored exports yields decided,
      result_requireInside_of_outside disjoint outside, error_bind]
  | notifyOutside anchored exports yields decided inside outside =>
    rw [result_of_decided prepared anchored exports yields decided,
      result_requireInside_of_inside disjoint inside, ok_bind,
      result_requireInside_of_outside disjoint outside, error_bind]

theorem finds_or_fails (prepared : Prepared owner config rodata code) :
    (∃ found, Finds owner config rodata code found) ∨
      ∃ halt, Fails owner config rodata code halt := by
  rcases anchored_or_unanchored rodata config.notifier.anchor with
    ⟨anchor, anchored⟩ | ⟨reason, unanchored⟩
  · obtain ⟨entries, _, listed⟩ := exists_entries prepared anchor
    by_cases empty : entriesOf config code anchor = ∅
    · exact .inr ⟨_, .noEntries anchored empty⟩
    rcases exports_or_unexported .notifier owner config.notifier.callerExport with
      ⟨caller, exports⟩ | ⟨halt, unexported⟩
    · by_cases parsed : ∃ routine, owner.Yields config.parser.maxInstructions caller routine
      · obtain ⟨routine, yields⟩ := parsed
        have same := @mem_called_iff (routine.callTargets none).value _ _ listed
        rcases decided_or_undecided same with ⟨found, decided⟩ | ⟨reason, undecided⟩
        · by_cases inside : owner.Inside found.instance
          · by_cases told : owner.Inside found.notify
            · exact .inl ⟨found, anchor, caller, routine, anchored, exports, yields, decided,
                inside, told⟩
            · exact .inr ⟨_, .notifyOutside anchored exports yields decided inside told⟩
          · exact .inr ⟨_, .instanceOutside anchored exports yields decided inside⟩
        · exact .inr ⟨_, .undecided anchored empty exports yields undecided⟩
      · exact .inr ⟨_, .unparsed anchored empty exports (not_exists.mp parsed)⟩
    · exact .inr ⟨_, .unexported anchored empty unexported⟩
  · exact .inr ⟨_, .unanchored unanchored⟩

/-- **The search for the notifier is exact**, both in what it finds and in why it finds nothing. -/
theorem notifier_exact (prepared : Prepared owner config rodata code) :
    (∀ found, (resolve owner config).result = .ok found ↔
      Finds owner config rodata code found) ∧
    ∀ halt, (resolve owner config).result = .error halt ↔
      Fails owner config rodata code halt :=
  exact_of_total (fun _ => result_of_finds prepared) (fun _ => result_of_fails prepared)
    (finds_or_fails prepared)

end Exact

theorem notifier_of_complete : ∃ owner rodata code,
    Prepared owner Specimen.settings rodata code ∧
      Finds owner Specimen.settings rodata code ⟨0x400188, 0x400170⟩ := by
  have computed : (LoadedModule.openInOrder? "host.exe" Specimen.complete {}).any (fun owner =>
      (owner.segment? Specimen.settings.segments.rodata).isSome &&
        (owner.segment? Specimen.settings.segments.code).isSome &&
        (Checked.notifier owner Specimen.settings).run = .ok (.ok ⟨0x400188, 0x400170⟩)) =
          true := by
    decide +kernel
  obtain ⟨owner, rodata, code, opened, prepared, ended⟩ := Prepared.of_computed rfl computed
  have low := LoadedModule.low_of_load opened (by decide +kernel) (by decide +kernel)
  have agrees := Checked.notifier_agrees low X86.short_decoder prepared.usable
  have resolved := Except.ok.inj (agrees.symm.trans (of_decide_eq_true ended))
  exact ⟨owner, rodata, code, prepared, ((notifier_exact prepared).1 _).mp resolved⟩

end Landmark.Symbol.Notifier
