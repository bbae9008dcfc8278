import Landmark.Proofs.Checked.Entry
import Landmark.Proofs.Checked.LoadedModule
import Landmark.Proofs.Checked.Scan
import Landmark.Proofs.Config
import Landmark.Proofs.Symbol.Outcome

/-! # The searches, checked

Calls are looked up by position where validation has seen to it that they are there,
and by an option where nothing has. Everything else that a search computes is computed
of segments, functions and exports of its module, so no search stops for a reason that
is not its own.
-/

namespace Landmark

open Log

namespace Checked

/-! ## Steps -/

def giveUp {α : Type} (symbol : Symbol) (reason : Reason) : Guarded Halt α :=
  throw (.unresolved { symbol := symbol.text, reason })

def uniqueAnchor (symbol : Symbol) (segment : Segment) (anchor : String) : Guarded Halt Nat := do
  match ← ExceptT.lift (find segment (Text.Utf8.encode anchor)) with
  | [] => giveUp symbol (.anchorNotFound anchor segment.name)
  | [address] => return address
  | many => giveUp symbol (.ambiguousAnchor anchor segment.name many.length)

def requiredExport (symbol : Symbol) (owner : LoadedModule) (name : String) :
    Guarded Halt Nat := do
  match ← (function? owner name).ofAttempt with
  | some address => return address
  | none => giveUp symbol (.missingExport name)

def single {α : Type} (symbol : Symbol) : Survivor α → Guarded Halt α
  | .one value => pure value
  | .none => giveUp symbol .noSurvivor
  | .ambiguous count => giveUp symbol (.ambiguousSurvivors count)

def requireInside (symbol : Symbol) (owner : LoadedModule) (address : Nat) :
    Guarded Halt Unit := do
  if ← ExceptT.lift (inModule owner address) then return ()
  else giveUp symbol (.outsideModule address)

/-! ## Searches -/

/-- The calls at both positions are looked up without asking whether they are there. -/
def candidate (code : Segment) (settings : PlayerSettings) (gettext reference : Nat) :
    Checked (Option Nat) := do
  let calls ← rawCalls code reference settings.callWindow
  if calls.length < settings.minCalls then return none
  else if (← get calls settings.gettextIndex) ≠ gettext then return none
  else return some (← get calls settings.resultIndex)

def player (owner : LoadedModule) (config : Config) : Guarded Halt Nat := do
  let settings := config.player
  let rodata ← (requireSegment owner config.segments.rodata).ofAttempt
  let code ← (requireSegment owner config.segments.code).ofAttempt
  let gettext ← requiredExport .player owner settings.gettextExport
  let anchor ← uniqueAnchor .player rodata settings.anchor
  let references ← ExceptT.lift (references code anchor)
  if references.isEmpty then giveUp .player .noCandidates
  let found ← ExceptT.lift (references.mapM (candidate code settings gettext))
  let target ← single .player (.ofCandidates (found.filterMap id))
  requireInside .player owner target
  return target

def globals (owner : LoadedModule) (config : Config) : Guarded Halt Nat := do
  let settings := config.globals
  let function ← requiredExport .globals owner settings.function
  let segment ← (requireSegmentAt owner function).ofAttempt
  match ← ExceptT.lift (onlyRawCompare segment function settings.scanWindow) with
  | none => giveUp .globals (.patternNotUnique Symbol.Globals.pattern)
  | some field =>
    requireInside .globals owner field
    if field < settings.playerFieldOffset then giveUp .globals (.outsideModule field)
    ExceptT.lift (sub field settings.playerFieldOffset)

def notifier [Decoder] (owner : LoadedModule) (config : Config) :
    Guarded Halt NotifierAddresses := do
  let settings := config.notifier
  let rodata ← (requireSegment owner config.segments.rodata).ofAttempt
  let code ← (requireSegment owner config.segments.code).ofAttempt
  let anchor ← uniqueAnchor .notifier rodata settings.anchor
  let candidates ←
    (entriesReferencing code config.entries settings.entryWindow anchor).ofAttempt
  if candidates.isEmpty then giveUp .notifier .noCandidates
  let caller ← requiredExport .notifier owner settings.callerExport
  match ← (routineAt? owner caller config.parser.maxInstructions).ofAttempt with
  | none => giveUp .notifier (.parseFailed caller)
  | some routine =>
    let calls ← ExceptT.lift (callTargets routine)
    let called := Survivor.intersect candidates calls
    let pairs := (Symbol.Notifier.neighbours calls).filter fun pair => called.contains pair.notify
    let found ← single .notifier (.ofCandidates pairs)
    requireInside .notifier owner found.instance
    requireInside .notifier owner found.notify
    return found

def constructor? [Decoder] (owner : LoadedModule) (code : Segment) (limit : Nat)
    (references : List Nat) (entry : Nat) : Guarded Fatal (Option Routine) := do
  if ← ExceptT.lift (contains code entry) then
    match ← routineAt? owner entry limit with
    | some routine =>
      if ← ExceptT.lift (references.anyM (holds routine)) then return some routine
      else return none
    | none => return none
  else return none

def cvar [Decoder] (owner : LoadedModule) (config : Config) : Guarded Halt Nat := do
  let settings := config.cvar
  let rodata ← (requireSegment owner config.segments.rodata).ofAttempt
  let code ← (requireSegment owner config.segments.code).ofAttempt
  let anchor ← uniqueAnchor .cvar rodata settings.anchor
  let references ← ExceptT.lift (references code anchor)
  let candidates ←
    (entriesReferencing code config.entries settings.entryWindow anchor).ofAttempt
  if candidates.isEmpty then giveUp .cvar .noCandidates
  let limit := config.parser.maxInstructions
  let found ← Guarded.ofAttempt (candidates.mapM (constructor? owner code limit references))
  let constructors := found.filterMap id
  let entry ← single .cvar (.ofCandidates (constructors.map Routine.entry))
  match constructors.find? fun routine => routine.entry == entry with
  | none => giveUp .cvar .noSurvivor
  | some constructor =>
    let calls ← ExceptT.lift (callTargets constructor)
    match calls[settings.accessorCallIndex]? with
    | none =>
      giveUp .cvar
        (.tooFewCalls calls.length (← ExceptT.lift (add settings.accessorCallIndex 1)))
    | some accessor =>
      requireInside .cvar owner accessor
      return accessor

/-! ## Agreement -/

variable {owner : LoadedModule} {config : Config} {symbol : Symbol} {segment : Segment}

theorem uniqueAnchor_agrees (room : segment.stop < word) (anchor : String) :
    Agrees (uniqueAnchor symbol segment anchor) (Search.uniqueAnchor symbol segment anchor) := by
  rw [uniqueAnchor, find_eq room, lift_ok_bind, Search.uniqueAnchor]
  match segment.find (Text.Utf8.encode anchor) with
  | [] => rfl
  | [address] => rfl
  | first :: second :: rest => rfl

theorem single_agrees {α : Type} (survivor : Survivor α) :
    Agrees (single symbol survivor) (Search.single symbol survivor) := by
  cases survivor <;> rfl

theorem requireInside_agrees (address : Nat) :
    Agrees (requireInside symbol owner address) (Search.requireInside symbol owner address) := by
  rw [requireInside, inModule_eq, lift_ok_bind, Search.requireInside]
  split <;> rfl

theorem requireSegment_search_agrees (name : String) :
    Agrees (requireSegment owner name).ofAttempt
      (Search.ofExcept (owner.requireSegment name)) :=
  (requireSegment_agrees owner name).ofAttempt

theorem requiredExport_agrees {name : String}
    (room : ∀ address, owner.export? name = some address → address < word) :
    Agrees (requiredExport symbol owner name) (Search.requiredExport symbol owner name) := by
  apply Agrees.bind (function?_agrees room).ofAttempt
  intro found _
  cases found <;> rfl

/-- Only what is added to and taken from addresses of the module has to be an address again. -/
theorem globals_agrees
    (room : ∀ address, owner.export? config.globals.function = some address → address < word)
    (segments : ∀ segment ∈ owner.segments, segment.stop < word ∧ segment.size + 7 < word) :
    Agrees (globals owner config) (Symbol.Globals.search owner config) := by
  apply Agrees.bind (requiredExport_agrees room)
  intro function _
  apply Agrees.bind (requireSegmentAt_agrees owner function).ofAttempt
  intro segment around
  have member : segment ∈ owner.segments := by
    rw [Search.result_ofAttempt, mapError_eq_ok, Attempt.result_ofExcept,
      LoadedModule.requireSegmentAt] at around
    split at around
    next found =>
      obtain rfl := Except.ok.inj around
      exact (LoadedModule.of_segmentAt?_eq_some found).1
    next => cases around
  obtain ⟨below, short⟩ := segments segment member
  apply Agrees.bind (Agrees.lift (onlyRawCompare_eq below short function _))
  intro compared _
  cases compared with
  | none => rfl
  | some field =>
    apply Agrees.bind (requireInside_agrees field)
    intro _ _
    dsimp only
    split
    next => rfl
    next enough =>
      rw [sub_eq (Nat.not_lt.mp enough)]
      rfl

variable (low : owner.Low)
include low

theorem low_of_required {name : String}
    (ended : (Search.ofExcept (owner.requireSegment name)).result = .ok segment) :
    segment.Low := by
  rw [Search.result_ofExcept, mapError_eq_ok, LoadedModule.requireSegment_eq_ok_iff] at ended
  exact low.segments segment (List.mem_of_find?_eq_some ended)

omit low in
theorem candidate_eq {code : Segment} (lowCode : code.Low) (valid : config.Valid)
    (gettext reference : Nat) :
    candidate code config.player gettext reference =
      .ok (Symbol.Player.candidate code config.player gettext reference).value := by
  rw [candidate, rawCalls_eq lowCode, ok_bind, Symbol.Player.candidate, Traced.value_bind]
  generalize (code.rawCalls reference config.player.callWindow).value = calls
  split
  next => rfl
  next enough =>
    have result := List.getElem?_eq_getElem (Nat.lt_of_lt_of_le valid.resultIndex
      (Nat.not_lt.mp enough))
    have first := List.getElem?_eq_getElem (Nat.lt_of_lt_of_le valid.gettextIndex
      (Nat.not_lt.mp enough))
    rw [get_eq first, ok_bind, first, get_eq result, ok_bind, result]
    simp only [ne_eq, Option.some.injEq]
    split <;> rfl

-- Where no call has to be there, the one that is looked at may be missing.
omit low in
example : candidate { name := "", base := 0, data := [] } { minCalls := 0 } 0 0 =
    .error .index := by
  decide

theorem player_agrees (valid : config.Valid) :
    Agrees (player owner config) (Symbol.Player.search owner config) := by
  apply Agrees.bind (requireSegment_search_agrees _)
  intro rodata read
  apply Agrees.bind (requireSegment_search_agrees _)
  intro code run
  apply Agrees.bind (requiredExport_agrees fun _ => low.export?_lt)
  intro gettext _
  apply Agrees.bind (uniqueAnchor_agrees (low_of_required low read).room _)
  intro anchor _
  have lowCode := low_of_required low run
  apply Agrees.checked_bind (references_eq lowCode.room anchor)
  dsimp only
  split
  next => rfl
  next =>
    apply Agrees.bind
    · apply Agrees.lift
      rw [Traced.value_mapM]
      exact mapM_eq_ok_of_forall fun reference _ => candidate_eq lowCode valid gettext reference
    intro found _
    apply Agrees.emit
    apply Agrees.bind (single_agrees _)
    intro target _
    apply Agrees.bind (requireInside_agrees target)
    intro _ _
    exact Agrees.emit (Agrees.pure target)

section Decoded

variable [Decoder] (short : Decoder.Short)
include short

theorem notifier_agrees (valid : config.Valid) :
    Agrees (notifier owner config) (Symbol.Notifier.search owner config) := by
  apply Agrees.bind (requireSegment_search_agrees _)
  intro rodata read
  apply Agrees.bind (requireSegment_search_agrees _)
  intro code run
  apply Agrees.bind (uniqueAnchor_agrees (low_of_required low read).room _)
  intro anchor _
  apply Agrees.bind (entriesReferencing_agrees (low_of_required low run) valid.power
    valid.notifierWindow anchor).ofAttempt
  intro candidates _
  dsimp only
  split
  next => rfl
  next =>
    apply Agrees.bind (requiredExport_agrees fun _ => low.export?_lt)
    intro caller _
    apply Agrees.bind (routineAt?_agrees low short caller _).ofAttempt
    intro answer ended
    cases answer with
    | none => rfl
    | some routine =>
      have fits := fits_of_routineAt? low short (mapError_eq_ok.mp ended)
      apply Agrees.bind (Agrees.lift (callTargets_eq fits))
      intro calls _
      apply Agrees.emit
      apply Agrees.bind (single_agrees _)
      intro found _
      apply Agrees.bind (requireInside_agrees found.instance)
      intro _ _
      apply Agrees.bind (requireInside_agrees found.notify)
      intro _ _
      exact Agrees.emit (Agrees.pure found)

theorem constructor?_agrees (code : Segment) (limit : Nat) (references : List Nat) (entry : Nat) :
    Agrees (constructor? owner code limit references entry)
      (Symbol.Cvar.constructor? owner code limit references entry) := by
  rw [constructor?, contains_eq, lift_ok_bind, Symbol.Cvar.constructor?]
  split
  next =>
    apply Agrees.bind (routineAt?_agrees low short entry limit)
    intro answer ended
    cases answer with
    | none => rfl
    | some routine =>
      have fits := fits_of_routineAt? low short ended
      have covered : references.anyM (holds routine) = .ok (references.any routine.contains) := by
        rw [funext (holds_eq fits)]
        exact List.anyM_pure
      dsimp only
      rw [covered, lift_ok_bind]
      split <;> rfl
  next => rfl

theorem fits_of_constructor? {code : Segment} {limit entry : Nat} {references : List Nat}
    {routine : Routine}
    (ended : (Symbol.Cvar.constructor? owner code limit references entry).result =
      .ok (some routine)) : routine.Fits := by
  unfold Symbol.Cvar.constructor? at ended
  split at ended
  next =>
    rw [Attempt.result_bind] at ended
    obtain ⟨answer, parsed, chosen⟩ := bind_eq_ok.mp ended
    cases answer with
    | none => cases chosen
    | some found =>
      have fits := fits_of_routineAt? low short parsed
      have kept := Except.ok.inj chosen
      split at kept
      · exact Option.some.inj kept ▸ fits
      · cases kept
  next => cases ended

theorem cvar_agrees (valid : config.Valid) (few : config.cvar.accessorCallIndex + 1 < word) :
    Agrees (cvar owner config) (Symbol.Cvar.search owner config) := by
  apply Agrees.bind (requireSegment_search_agrees _)
  intro rodata read
  apply Agrees.bind (requireSegment_search_agrees _)
  intro code run
  have lowCode := low_of_required low run
  apply Agrees.bind (uniqueAnchor_agrees (low_of_required low read).room _)
  intro anchor _
  apply Agrees.checked_bind (references_eq lowCode.room anchor)
  apply Agrees.bind (entriesReferencing_agrees lowCode valid.power
    valid.cvarWindow anchor).ofAttempt
  intro candidates _
  dsimp only
  split
  next => rfl
  next =>
    apply Agrees.bind
      (Agrees.mapM fun entry _ => constructor?_agrees low short code _ _ entry).ofAttempt
    intro found ended
    apply Agrees.emit
    apply Agrees.bind (single_agrees _)
    intro entry _
    cases chosen : (found.filterMap id).find? fun routine => routine.entry == entry with
    | none => rfl
    | some constructor =>
      -- The function that was chosen has been parsed, so its calls can be computed.
      have kept := List.mem_filterMap.mp (List.mem_of_find?_eq_some chosen)
      obtain ⟨_, inFound, rfl⟩ := kept
      rw [Search.result_ofAttempt, mapError_eq_ok, Attempt.result_mapM] at ended
      obtain ⟨_, _, origin⟩ := exists_of_mem_mapM ended inFound
      have fits := fits_of_constructor? low short origin
      apply Agrees.bind (Agrees.lift (callTargets_eq fits))
      intro calls _
      cases calls[config.cvar.accessorCallIndex]? with
      | none =>
        dsimp only
        rw [add_eq few]
        rfl
      | some accessor =>
        apply Agrees.bind (requireInside_agrees accessor)
        intro _ _
        exact Agrees.emit (Agrees.pure accessor)

end Decoded

end Checked

end Landmark
