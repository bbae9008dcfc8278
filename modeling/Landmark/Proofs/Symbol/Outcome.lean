import Landmark.Proofs.Log.Attempt
import Landmark.Symbol.Cvar
import Landmark.Symbol.Globals
import Landmark.Symbol.Notifier
import Landmark.Symbol.Player

/-! # Searches that succeed

Every step of a search that does not fail has an answer, and what is said of the steps
together is all that is known of the symbol in the end. For each symbol it is written
down here once, so nothing behind looks into a search again.
-/

namespace Landmark

open Log

/-- One value is left of candidates that are all the same, however many there are. -/
theorem Survivor.ofCandidates_eq_one_iff {α : Type} [DecidableEq α] {candidates : List α}
    {value : α} :
    ofCandidates candidates = .one value ↔
      candidates ≠ [] ∧ ∀ other ∈ candidates, other = value := by
  cases candidates with
  | nil => simp [ofCandidates]
  | cons first rest =>
    have members : ∀ other, other ∈ (first :: rest).eraseDups ↔ other ∈ first :: rest :=
      fun other => List.mem_eraseDups
    constructor
    · intro left
      refine ⟨List.cons_ne_nil _ _, ?_⟩
      unfold ofCandidates at left
      split at left
      · cases left
      · next single only =>
        cases left
        intro other member
        rw [← members, only] at member
        exact List.mem_singleton.mp member
      · cases left
    · rintro ⟨_, same⟩
      obtain rfl := same first List.mem_cons_self
      have nothing : rest.filter (fun other => !other == first) = [] := by
        rw [List.filter_eq_nil_iff]
        intro other member
        simp [same other (List.mem_cons_of_mem _ member)]
      have only : (first :: rest).eraseDups = [first] := by
        rw [List.eraseDups_cons, nothing, List.eraseDups_nil]
      simp only [ofCandidates, only]

variable {symbol : Symbol} {owner : LoadedModule} {config : Config}

namespace Search

theorem uniqueAnchor_eq_ok_iff {segment : Segment} {anchor : String} {address : Nat} :
    (uniqueAnchor symbol segment anchor).result = .ok address ↔
      segment.find (Text.Utf8.encode anchor) = [address] := by
  unfold uniqueAnchor
  split
  · next absent => simp [absent]
  · next place found =>
    simp only [found, Attempt.result_bind, bind_eq_ok, Attempt.result_emit, Attempt.result_pure,
      Except.ok.injEq, exists_const, true_and, List.cons.injEq, and_true]
  · next many several => simp_all

theorem requiredExport_eq_ok_iff {name : String} {address : Nat} :
    (requiredExport symbol owner name).result = .ok address ↔
      (owner.function? name).result = .ok (some address) := by
  simp only [requiredExport, Attempt.result_bind, bind_eq_ok, result_ofAttempt, mapError_eq_ok]
  constructor
  · rintro ⟨found, same, chosen⟩
    cases found with
    | none => cases chosen
    | some other =>
      cases chosen
      exact same
  · intro found
    exact ⟨_, found, rfl⟩

theorem single_eq_ok_iff {α : Type} {survivor : Survivor α} {value : α} :
    (single symbol survivor).result = .ok value ↔ survivor = .one value := by
  cases survivor <;> simp [single]

theorem requireInside_eq_ok_iff {address : Nat} {done : Unit} :
    (requireInside symbol owner address).result = .ok done ↔ owner.contains address = true := by
  unfold requireInside
  split <;> simp_all

theorem unless_eq_ok_iff {α β : Type} {condition : Prop} [Decidable condition] {reason : Reason}
    {given : α → Search β} {search : Search β} {value : β} :
    Attempt.result (if condition then giveUp symbol reason >>= given else search) = .ok value ↔
      ¬condition ∧ search.result = .ok value := by
  split
  · next holds => simp [holds]
  · next fails => simp [fails]

end Search


namespace Symbol

/-- The function of the player is found where exactly one follows the mentions of the text as it
should, and that one lies in the module. -/
theorem Player.resolve_eq_ok_iff {target : Nat} :
    (resolve owner config).result = .ok target ↔ ∃ rodata code gettext anchor,
      owner.requireSegment config.segments.rodata = .ok rodata ∧
      owner.requireSegment config.segments.code = .ok code ∧
      (owner.function? config.player.gettextExport).result = .ok (some gettext) ∧
      rodata.find (Text.Utf8.encode config.player.anchor) = [anchor] ∧
      code.references anchor ≠ [] ∧
      Survivor.ofCandidates ((code.references anchor).filterMap fun reference =>
        (candidate code config.player gettext reference).value) = .one target ∧
      owner.contains target = true := by
  simp only [resolve, search, Search.result_within, Attempt.result_bind, bind_eq_ok,
    Search.result_ofExcept, mapError_eq_ok, Search.requiredExport_eq_ok_iff,
    Search.uniqueAnchor_eq_ok_iff, Search.unless_eq_ok_iff, Attempt.result_lift,
    Attempt.result_emit, Attempt.result_pure, Search.single_eq_ok_iff,
    Search.requireInside_eq_ok_iff, Traced.value_mapM, List.filterMap_map, Function.comp_def,
    id_eq, Except.ok.injEq, exists_eq_left', exists_const, true_and, List.isEmpty_iff]
  constructor
  · rintro ⟨rodata, read, code, run, gettext, exported, anchor, located, mentioned, found, one,
      inside, rfl⟩
    exact ⟨rodata, code, gettext, anchor, read, run, exported, located, mentioned, one, inside⟩
  · rintro ⟨rodata, code, gettext, anchor, read, run, exported, located, mentioned, one, inside⟩
    exact ⟨rodata, read, code, run, gettext, exported, anchor, located, mentioned, target, one,
      inside, rfl⟩

/-- The globals start a configured distance in front of what is compared with zero, and it is that
address which lies in the module. -/
theorem Globals.resolve_eq_ok_iff {start : Nat} :
    (resolve owner config).result = .ok start ↔ ∃ function segment,
      (owner.function? config.globals.function).result = .ok (some function) ∧
      owner.requireSegmentAt function = .ok segment ∧
      (segment.onlyRawCompare function config.globals.scanWindow).value =
        some (start + config.globals.playerFieldOffset) ∧
      owner.contains (start + config.globals.playerFieldOffset) = true := by
  simp only [resolve, search, Search.result_within, Attempt.result_bind, bind_eq_ok,
    Search.result_ofExcept, mapError_eq_ok, Search.requiredExport_eq_ok_iff, Attempt.result_lift,
    Except.ok.injEq, exists_eq_left']
  constructor
  · rintro ⟨function, exported, segment, around, found⟩
    split at found
    · cases found
    next field compared =>
      simp only [Attempt.result_bind, bind_eq_ok, Search.requireInside_eq_ok_iff,
        Search.unless_eq_ok_iff, Attempt.result_emit, Attempt.result_pure, Except.ok.injEq,
        exists_const, true_and] at found
      obtain ⟨inside, behind, rfl⟩ := found
      have restored : field - config.globals.playerFieldOffset +
          config.globals.playerFieldOffset = field := Nat.sub_add_cancel (Nat.not_lt.mp behind)
      refine ⟨function, segment, exported, around, ?_, ?_⟩ <;> rw [restored]
      · exact compared
      · exact inside
  · rintro ⟨function, segment, exported, around, compared, inside⟩
    refine ⟨function, exported, segment, around, ?_⟩
    rw [compared]
    simp only [Attempt.result_bind, bind_eq_ok, Search.requireInside_eq_ok_iff,
      Search.unless_eq_ok_iff, Attempt.result_emit, Attempt.result_pure, exists_const,
      Nat.add_sub_cancel, and_true]
    exact ⟨inside, Nat.not_lt.mpr (Nat.le_add_left _ _)⟩

/-- The notifier is found where exactly one candidate is called by the exported function right
behind another call, and both lie in the module. -/
theorem Notifier.resolve_eq_ok_iff [Decoder] {found : NotifierAddresses} :
    (resolve owner config).result = .ok found ↔
      ∃ rodata code anchor candidates caller routine,
      owner.requireSegment config.segments.rodata = .ok rodata ∧
      owner.requireSegment config.segments.code = .ok code ∧
      rodata.find (Text.Utf8.encode config.notifier.anchor) = [anchor] ∧
      (code.entriesReferencing config.entries config.notifier.entryWindow anchor).result =
        .ok candidates ∧
      candidates ≠ [] ∧
      (owner.function? config.notifier.callerExport).result = .ok (some caller) ∧
      (owner.routineAt? caller config.parser.maxInstructions).result = .ok (some routine) ∧
      Survivor.ofCandidates ((neighbours (routine.callTargets none).value).filter fun pair =>
        (Survivor.intersect candidates (routine.callTargets none).value).contains pair.notify) =
          .one found ∧
      owner.contains found.instance = true ∧ owner.contains found.notify = true := by
  simp only [resolve, search, Search.result_within, Attempt.result_bind, bind_eq_ok,
    Search.result_ofExcept, Search.result_ofAttempt, mapError_eq_ok,
    Search.requiredExport_eq_ok_iff, Search.uniqueAnchor_eq_ok_iff, Search.unless_eq_ok_iff,
    List.isEmpty_iff]
  constructor
  · rintro ⟨rodata, read, code, run, anchor, located, candidates, near, some, caller, exported,
      parsed, follows, last⟩
    split at last
    · cases last
    next routine =>
      simp only [Attempt.result_bind, bind_eq_ok, Attempt.result_lift, Attempt.result_emit,
        Attempt.result_pure, Search.single_eq_ok_iff, Search.requireInside_eq_ok_iff,
        Except.ok.injEq, exists_eq_left', exists_const, true_and] at last
      obtain ⟨pair, one, inside, told, rfl⟩ := last
      exact ⟨rodata, code, anchor, candidates, caller, routine, read, run, located, near, some,
        exported, follows, one, inside, told⟩
  · rintro ⟨rodata, code, anchor, candidates, caller, routine, read, run, located, near, some,
      exported, follows, one, inside, told⟩
    refine ⟨rodata, read, code, run, anchor, located, candidates, near, some, caller, exported,
      _, follows, ?_⟩
    simp only [Attempt.result_bind, bind_eq_ok, Attempt.result_lift, Attempt.result_emit,
      Attempt.result_pure, Search.single_eq_ok_iff, Search.requireInside_eq_ok_iff,
      Except.ok.injEq, exists_eq_left', exists_const, true_and]
    exact ⟨found, one, inside, told, rfl⟩

/-- The accessor is found where exactly one function covers the mentions of the text, makes enough
direct calls, and the one at the known position leads into the module. -/
theorem Cvar.resolve_eq_ok_iff [Decoder] {accessor : Nat} :
    (resolve owner config).result = .ok accessor ↔
      ∃ rodata code anchor candidates parsed entry constructor,
      owner.requireSegment config.segments.rodata = .ok rodata ∧
      owner.requireSegment config.segments.code = .ok code ∧
      rodata.find (Text.Utf8.encode config.cvar.anchor) = [anchor] ∧
      (code.entriesReferencing config.entries config.cvar.entryWindow anchor).result =
        .ok candidates ∧
      candidates ≠ [] ∧
      (candidates.mapM (constructor? owner code config.parser.maxInstructions
        (code.references anchor))).result = .ok parsed ∧
      Survivor.ofCandidates ((parsed.filterMap id).map Routine.entry) = .one entry ∧
      (parsed.filterMap id).find? (fun routine => routine.entry == entry) = some constructor ∧
      (constructor.callTargets none).value[config.cvar.accessorCallIndex]? = some accessor ∧
      owner.contains accessor = true := by
  simp only [resolve, search, Search.result_within, Attempt.result_bind, bind_eq_ok,
    Search.result_ofExcept, Search.result_ofAttempt, mapError_eq_ok,
    Search.uniqueAnchor_eq_ok_iff, Search.unless_eq_ok_iff, Search.single_eq_ok_iff,
    Attempt.result_emit, exists_const, true_and, List.isEmpty_iff]
  constructor
  · rintro ⟨rodata, read, code, run, anchor, located, candidates, near, some, parsed, follows,
      entry, one, last⟩
    split at last
    · cases last
    next constructor chosen =>
      simp only [Attempt.result_bind, bind_eq_ok, Attempt.result_lift, Except.ok.injEq,
        exists_eq_left'] at last
      split at last
      · cases last
      next target called =>
        simp only [Attempt.result_bind, bind_eq_ok, Attempt.result_emit, Attempt.result_pure,
          Search.requireInside_eq_ok_iff, Except.ok.injEq, exists_const, true_and] at last
        obtain ⟨inside, rfl⟩ := last
        exact ⟨rodata, code, anchor, candidates, parsed, entry, constructor, read, run, located,
          near, some, follows, one, chosen, called, inside⟩
  · rintro ⟨rodata, code, anchor, candidates, parsed, entry, constructor, read, run, located,
      near, some, follows, one, chosen, called, inside⟩
    refine ⟨rodata, read, code, run, anchor, located, candidates, near, some, parsed, follows,
      entry, one, ?_⟩
    simp only [chosen, called, Attempt.result_bind, bind_eq_ok, Attempt.result_lift,
      Attempt.result_emit, Attempt.result_pure, Search.requireInside_eq_ok_iff, Except.ok.injEq,
      exists_eq_left', exists_const, and_true]
    exact inside

end Symbol

end Landmark
