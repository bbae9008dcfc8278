import Landmark.Proofs.Checked.Symbol
import Landmark.Proofs.Symbol.Cvar

/-! # How searches can end

With a configuration that has been validated a search of an opened module runs to its
end: no index, slice or difference is out of range, no loop goes on, and no address that
it derives by itself is refused. Only what the module lacks can be fatal, a segment that
is searched or room for an exported function.
-/

namespace Landmark

open Log

namespace Search

/-- The search does not end with a fatal fault but one of these. -/
def Confined {α : Type} (faults : Fatal → Prop) (search : Search α) : Prop :=
  ∀ fault, search.result = .error (.fatal fault) → faults fault

namespace Confined

variable {α β : Type} {faults : Fatal → Prop} {search : Search α}

theorem of_ok {a : α} (ended : search.result = .ok a) : Confined faults search := by
  intro fault failed
  cases ended.symm.trans failed

theorem pure (a : α) : Confined faults (Pure.pure a : Search α) := of_ok rfl

theorem giveUp (symbol : Symbol) (reason : Reason) :
    Confined faults (Search.giveUp symbol reason : Search α) := by
  intro fault failed
  cases failed

theorem bind {follow : α → Search β} (first : Confined faults search)
    (then_ : ∀ a, search.result = .ok a → Confined faults (follow a)) :
    Confined faults (search >>= follow) := by
  intro fault failed
  rw [Attempt.result_bind] at failed
  cases ended : search.result with
  | ok a =>
    rw [ended] at failed
    exact then_ a ended fault failed
  | error halt =>
    rw [ended] at failed
    obtain rfl := Except.error.inj failed
    exact first fault ended

theorem or_left {others : Fatal → Prop} (confined : Confined faults search) :
    Confined (fun fault => faults fault ∨ others fault) search :=
  fun fault failed => .inl (confined fault failed)

theorem or_right {others : Fatal → Prop} (confined : Confined faults search) :
    Confined (fun fault => others fault ∨ faults fault) search :=
  fun fault failed => .inr (confined fault failed)

theorem guard {condition : Prop} [Decidable condition] {symbol : Symbol} {reason : Reason}
    {given : β → Search α} (passed : Confined faults search) :
    Confined faults (if condition then Search.giveUp symbol reason >>= given else search) := by
  split
  · exact bind (giveUp symbol reason) fun _ ended => nomatch ended
  · exact passed

theorem ofAttempt {attempt : Attempt Fatal α}
    (faulty : ∀ fault, attempt.result = .error fault → faults fault) :
    Confined faults (Search.ofAttempt attempt) := by
  intro fault failed
  rw [result_ofAttempt] at failed
  cases ended : attempt.result with
  | ok a =>
    rw [ended] at failed
    cases failed
  | error cause =>
    rw [ended] at failed
    obtain rfl := Halt.fatal.inj (Except.error.inj failed)
    exact faulty cause ended

theorem uniqueAnchor (symbol : Symbol) (segment : Segment) (anchor : String) :
    Confined faults (Search.uniqueAnchor symbol segment anchor) := by
  intro fault failed
  rcases anchored_or_unanchored segment anchor with ⟨place, anchored⟩ | ⟨reason, unanchored⟩
  · cases (result_uniqueAnchor_of_anchored anchored).symm.trans failed
  · cases (result_uniqueAnchor_of_unanchored unanchored).symm.trans failed

theorem single (symbol : Symbol) (survivor : Survivor α) :
    Confined faults (Search.single symbol survivor) := by
  cases survivor with
  | none => exact giveUp symbol _
  | one value => exact pure value
  | ambiguous count => exact giveUp symbol _

theorem requireInside (symbol : Symbol) (owner : LoadedModule) (address : Nat) :
    Confined faults (Search.requireInside symbol owner address) := by
  unfold Search.requireInside
  split
  · exact pure ()
  · exact giveUp symbol _

end Confined

end Search

theorem Discovery.Task.supported_of_width [Decoder] {owner : LoadedModule} {segment : Segment}
    {entry limit bits : Nat} (width : owner.bits = 32 ∨ owner.bits = 64) :
    ((owner.task segment limit).parse entry).result ≠
      .error (.undecodable (.unsupportedBitness bits)) := by
  have known : ∃ mode, X86.Mode.ofBits? owner.bits = some mode := by
    cases width with
    | inl narrow => exact ⟨.bits32, narrow ▸ rfl⟩
    | inr wide => exact ⟨.bits64, wide ▸ rfl⟩
  obtain ⟨mode, known⟩ := known
  intro failed
  rw [result_parse] at failed
  cases traversed : ((owner.task segment limit).discover entry).result with
  | ok found =>
    rw [traversed] at failed
    dsimp only [Except.bind] at failed
    split at failed <;> cases failed
  | error failure =>
    rw [traversed] at failed
    obtain rfl := Except.error.inj failed
    obtain ⟨address, window, _, _, undecoded⟩ := explains_of_discover_eq_error traversed
    change (Decoder.detail owner.bits address window).map _ = _ at undecoded
    cases decoded : Decoder.detail owner.bits address window with
    | ok instruction =>
      rw [decoded] at undecoded
      cases undecoded
    | error error =>
      rw [decoded] at undecoded
      obtain rfl := Except.error.inj undecoded
      exact Decoder.detail_supported known address window bits decoded

namespace Symbol

variable {owner : LoadedModule} {config : Config}

/-- The fault is that a segment which is searched is not there. -/
def Unread (owner : LoadedModule) (config : Config) (fault : Fatal) : Prop :=
  ∃ name, (name = config.segments.rodata ∨ name = config.segments.code) ∧
    owner.segment? name = none ∧ fault = .missingSegment owner.name name

/-- The fault is that an exported function lies outside every segment. -/
def Misplaced (owner : LoadedModule) (name : String) (fault : Fatal) : Prop :=
  ∃ address, owner.export? name = some address ∧ ¬owner.Inside address ∧
    fault = .addressOutOfBounds owner.scope address

/-- How the searches of a module run and end. -/
structure Sound [Decoder] (owner : LoadedModule) (config : Config) : Prop where
  notifier_runs : Agrees (Checked.notifier owner config) (Notifier.resolve owner config)
  globals_runs : Agrees (Checked.globals owner config) (Globals.resolve owner config)
  player_runs : Agrees (Checked.player owner config) (Player.resolve owner config)
  cvar_runs : Agrees (Checked.cvar owner config) (Cvar.resolve owner config)
  notifier_faults : (Notifier.resolve owner config).Confined fun fault =>
    Unread owner config fault ∨ Misplaced owner config.notifier.callerExport fault
  globals_faults : (Globals.resolve owner config).Confined
    (Misplaced owner config.globals.function)
  player_faults : (Player.resolve owner config).Confined fun fault =>
    Unread owner config fault ∨ Misplaced owner config.player.gettextExport fault
  cvar_faults : (Cvar.resolve owner config).Confined (Unread owner config)
  /-- No reference is refused. -/
  entries : ∀ segment ∈ owner.segments, ∀ target window,
    window = config.notifier.entryWindow ∨ window = config.cvar.entryWindow →
    ∃ found, (segment.entriesReferencing config.entries window target).result = .ok found
  /-- No entry inside the module is refused, whether a function comes of it or not. -/
  functions : ∀ address limit, owner.Inside address →
    ∃ answer, (owner.routineAt? address limit).result = .ok answer ∧
      ∀ routine, answer = some routine ↔ owner.Yields limit address routine
  supported : ∀ segment entry limit bits,
    ((owner.task segment limit).parse entry).result ≠
      .error (.undecodable (.unsupportedBitness bits))

theorem confined_requireSegment {name : String}
    (searched : name = config.segments.rodata ∨ name = config.segments.code) :
    (Search.ofExcept (owner.requireSegment name)).Confined (Unread owner config) := by
  apply Search.Confined.ofAttempt
  intro fault failed
  rw [Attempt.result_ofExcept, LoadedModule.requireSegment_eq_error_iff] at failed
  exact ⟨name, searched, failed⟩

theorem confined_requiredExport (disjoint : owner.segments.Pairwise fun a b => a.stop ≤ b.base)
    (symbol : Symbol) (name : String) :
    (Search.requiredExport symbol owner name).Confined (Misplaced owner name) := by
  intro fault failed
  rcases Search.exports_or_unexported symbol owner name with ⟨address, exports⟩ | ⟨halt, why⟩
  · cases (Search.result_requiredExport_of_exports disjoint exports).symm.trans failed
  · obtain rfl := Except.error.inj
      ((Search.result_requiredExport_of_unexported disjoint why).symm.trans failed)
    cases why with
    | outside exported outside => exact ⟨_, exported, outside, rfl⟩

section Searches

variable (disjoint : owner.segments.Pairwise fun a b => a.stop ≤ b.base)
include disjoint

theorem confined_globals :
    (Globals.resolve owner config).Confined (Misplaced owner config.globals.function) := by
  change (Globals.search owner config).Confined _
  refine Search.Confined.bind (confined_requiredExport disjoint .globals _) ?_
  intro function ended
  obtain ⟨_, segment, around⟩ := Search.exports_of_requiredExport disjoint ended
  have found := (LoadedModule.segmentAt?_eq_some_iff disjoint).mpr around
  have located : owner.requireSegmentAt function = .ok segment := by
    rw [LoadedModule.requireSegmentAt, found]
  rw [located]
  refine Search.Confined.bind (.of_ok rfl) ?_
  intro _ _
  refine Search.Confined.bind (.of_ok rfl) ?_
  intro compared _
  cases compared with
  | none => exact .giveUp _ _
  | some field =>
    refine Search.Confined.bind (.requireInside _ _ _) ?_
    intro _ _
    exact .guard (.of_ok rfl)

theorem confined_player : (Player.resolve owner config).Confined fun fault =>
    Unread owner config fault ∨ Misplaced owner config.player.gettextExport fault := by
  change (Player.search owner config).Confined _
  refine Search.Confined.bind (confined_requireSegment (.inl rfl)).or_left ?_
  intro rodata _
  refine Search.Confined.bind (confined_requireSegment (.inr rfl)).or_left ?_
  intro code _
  refine Search.Confined.bind (confined_requiredExport disjoint .player _).or_right ?_
  intro gettext _
  refine Search.Confined.bind (.uniqueAnchor _ _ _) ?_
  intro anchor _
  refine Search.Confined.guard ?_
  refine Search.Confined.bind (.of_ok rfl) ?_
  intro found _
  refine Search.Confined.bind (.of_ok rfl) ?_
  intro _ _
  refine Search.Confined.bind (.single _ _) ?_
  intro target _
  refine Search.Confined.bind (.requireInside _ _ _) ?_
  intro _ _
  exact .of_ok rfl

variable (valid : config.Valid)
include valid

theorem confined_notifier [Decoder] : (Notifier.resolve owner config).Confined fun fault =>
    Unread owner config fault ∨ Misplaced owner config.notifier.callerExport fault := by
  change (Notifier.search owner config).Confined _
  refine Search.Confined.bind (confined_requireSegment (.inl rfl)).or_left ?_
  intro rodata _
  refine Search.Confined.bind (confined_requireSegment (.inr rfl)).or_left ?_
  intro code _
  refine Search.Confined.bind (.uniqueAnchor _ _ _) ?_
  intro anchor _
  obtain ⟨entries, near, _⟩ :=
    @Segment.exists_entriesReferencing_eq code _ _ valid.power valid.notifierWindow anchor
  refine Search.Confined.bind (.of_ok (congrArg (Except.mapError Halt.fatal) near)) ?_
  intro candidates _
  refine Search.Confined.guard ?_
  refine Search.Confined.bind (confined_requiredExport disjoint .notifier _).or_right ?_
  intro caller ended
  have exports := Search.exports_of_requiredExport disjoint ended
  obtain ⟨answer, parsed, _⟩ := LoadedModule.exists_result_routineAt? disjoint exports.2
  refine Search.Confined.bind (.of_ok (congrArg (Except.mapError Halt.fatal) parsed)) ?_
  intro found _
  cases found with
  | none => exact .giveUp _ _
  | some routine =>
    refine Search.Confined.bind (.of_ok rfl) ?_
    intro calls _
    refine Search.Confined.bind (.of_ok rfl) ?_
    intro _ _
    refine Search.Confined.bind (.single _ _) ?_
    intro pair _
    refine Search.Confined.bind (.requireInside _ _ _) ?_
    intro _ _
    refine Search.Confined.bind (.requireInside _ _ _) ?_
    intro _ _
    exact .of_ok rfl

theorem confined_cvar [Decoder] : (Cvar.resolve owner config).Confined (Unread owner config) := by
  change (Cvar.search owner config).Confined _
  refine Search.Confined.bind (confined_requireSegment (.inl rfl)) ?_
  intro rodata _
  refine Search.Confined.bind (confined_requireSegment (.inr rfl)) ?_
  intro code run
  rw [Search.result_ofExcept, mapError_eq_ok, LoadedModule.requireSegment_eq_ok_iff] at run
  refine Search.Confined.bind (.uniqueAnchor _ _ _) ?_
  intro anchor _
  obtain ⟨entries, near, _⟩ :=
    @Segment.exists_entriesReferencing_eq code _ _ valid.power valid.cvarWindow anchor
  refine Search.Confined.bind (.of_ok (congrArg (Except.mapError Halt.fatal) near)) ?_
  intro candidates _
  refine Search.Confined.guard ?_
  -- A candidate strictly inside the code is inside the module, so none of them is refused.
  have parsed := @Cvar.result_constructors _ owner code config.parser.maxInstructions
    (code.references anchor) disjoint (List.mem_of_find?_eq_some run) candidates
  refine Search.Confined.bind (.of_ok (congrArg (Except.mapError Halt.fatal) parsed)) ?_
  intro found _
  refine Search.Confined.bind (.of_ok rfl) ?_
  intro _ _
  refine Search.Confined.bind (.single _ _) ?_
  intro entry _
  split
  · exact .giveUp _ _
  · refine Search.Confined.bind (.of_ok rfl) ?_
    intro calls _
    split
    · exact .giveUp _ _
    · refine Search.Confined.bind (.requireInside _ _ _) ?_
      intro _ _
      exact .of_ok rfl

end Searches

/-- **Searches are sound.** Where the image leaves room for 34 bits of address behind it and the
configuration can be used, nothing stops a search, and what is fatal is only what the module
lacks. All that is relied on of the decoder is that instructions are short. -/
theorem searches_sound [Decoder] (short : Decoder.Short) {name : String} {view : Image.View}
    {limits : OpeningLimits}
    (opened : (LoadedModule.load name view limits).result = .ok owner)
    (base : view.base + 0x400000000 < Checked.word)
    (stop : view.stop + 0x400000000 < Checked.word)
    (usable : config.validate = .ok ())
    (position : config.cvar.accessorCallIndex + 1 < Checked.word) : Sound owner config := by
  have low := LoadedModule.low_of_load opened base stop
  have disjoint := LoadedModule.disjoint_of_load opened
  have valid := Config.validate_eq_ok_iff.mp usable
  refine {
    notifier_runs := Checked.notifier_agrees low short valid
    globals_runs := Checked.globals_agrees (fun _ => low.export?_lt) fun segment member => by
      have inside := low.segments segment member
      unfold Segment.Low Segment.stop at *
      omega
    player_runs := Checked.player_agrees low valid
    cvar_runs := Checked.cvar_agrees low short valid position
    notifier_faults := confined_notifier disjoint valid
    globals_faults := confined_globals disjoint
    player_faults := confined_player disjoint
    cvar_faults := confined_cvar disjoint valid
    entries := ?_
    functions := fun address limit inside =>
      LoadedModule.exists_result_routineAt? disjoint inside
    supported := ?_ }
  · intro segment _ target window used
    have whole : window % config.entries.alignment = 0 := by
      cases used with
      | inl same => exact same ▸ valid.notifierWindow
      | inr same => exact same ▸ valid.cvarWindow
    obtain ⟨found, near, _⟩ :=
      @Segment.exists_entriesReferencing_eq segment _ _ valid.power whole target
    exact ⟨found, near⟩
  · intro segment entry limit bits failed
    have width := LoadedModule.bits_of_load opened
    exact Discovery.Task.supported_of_width width failed

theorem sound_of_complete : ∃ owner,
    (LoadedModule.load "host.exe" Specimen.complete {}).result = .ok owner ∧
      Sound owner Specimen.settings := by
  have computed : (LoadedModule.openInOrder? "host.exe" Specimen.complete {}).isSome = true := by
    decide +kernel
  obtain ⟨owner, found⟩ := Option.isSome_iff_exists.mp computed
  have opened := LoadedModule.load_of_openInOrder? found
  exact ⟨owner, opened, searches_sound X86.short_decoder opened (by decide +kernel)
    (by decide +kernel) rfl (by decide)⟩

end Symbol

end Landmark
