import Landmark.Proofs.Checked.Symbol
import Landmark.Proofs.Symbol.Steps

/-! # When the message function is found

The answer hangs on one set: the functions that the calls behind the mentions lead to,
of those mentions that enough calls follow and among them, at its position, that of the
exported function. The search comes to the one member of the set or says why not, and
looks up no call that is not there.
-/

namespace Landmark.Symbol.Player

open Log Search

variable {owner : LoadedModule} {config : Config} {rodata code : Segment}

/-- The calls behind a mention are as many as they should be, and the one of the exported function
and the one that is looked for are among them. -/
def Leads (code : Segment) (settings : PlayerSettings) (gettext reference target : Nat) : Prop :=
  let calls := (code.rawCalls reference settings.callWindow).value
  settings.minCalls ≤ calls.length ∧ calls[settings.gettextIndex]? = some gettext ∧
    calls[settings.resultIndex]? = some target

def Targets (code : Segment) (settings : PlayerSettings) (gettext anchor : Nat) : Set Nat :=
  { target | ∃ reference ∈ code.references anchor, Leads code settings gettext reference target }

/-- Where the search ends with an address. -/
def Finds (owner : LoadedModule) (config : Config) (rodata code : Segment) (target : Nat) : Prop :=
  ∃ gettext anchor, owner.Exports config.player.gettextExport gettext ∧
    Anchored rodata config.player.anchor anchor ∧
    Targets code config.player gettext anchor = {target} ∧ owner.Inside target

/-- Where it ends without one. Each reason takes for granted that none above it applies. -/
inductive Fails (owner : LoadedModule) (config : Config) (rodata code : Segment) : Halt → Prop where
  | unexported {halt : Halt} : Unexported .player owner config.player.gettextExport halt →
    Fails owner config rodata code halt
  | unanchored {gettext : Nat} {reason : Reason} :
    owner.Exports config.player.gettextExport gettext →
    Unanchored rodata config.player.anchor reason →
    Fails owner config rodata code (.of .player reason)
  | unmentioned {gettext anchor : Nat} : owner.Exports config.player.gettextExport gettext →
    Anchored rodata config.player.anchor anchor → code.references anchor = [] →
    Fails owner config rodata code (.of .player .noCandidates)
  | undecided {gettext anchor : Nat} {reason : Reason} :
    owner.Exports config.player.gettextExport gettext →
    Anchored rodata config.player.anchor anchor → code.references anchor ≠ [] →
    Undecided (Targets code config.player gettext anchor) reason →
    Fails owner config rodata code (.of .player reason)
  | outside {gettext anchor target : Nat} :
    owner.Exports config.player.gettextExport gettext →
    Anchored rodata config.player.anchor anchor →
    Targets code config.player gettext anchor = {target} → ¬owner.Inside target →
    Fails owner config rodata code (.of .player (.outsideModule target))

theorem leads_iff {settings : PlayerSettings} {gettext reference target : Nat} :
    (candidate code settings gettext reference).value = some target ↔
      Leads code settings gettext reference target := by
  simp only [candidate, Traced.value_bind, Leads]
  split
  next few =>
    simp only [Traced.value_bind, Traced.value_pure, reduceCtorEq, Nat.not_le.mpr few, false_and]
  next enough =>
    split
    next other =>
      simp only [Traced.value_bind, Traced.value_pure, reduceCtorEq, other, false_and, and_false]
    next same =>
      simp only [Traced.value_pure, Nat.not_lt.mp enough, not_not.mp same, true_and]

theorem mem_survivors_iff {settings : PlayerSettings} {gettext anchor : Nat} (target : Nat) :
    target ∈ (code.references anchor).filterMap
        (fun reference => (candidate code settings gettext reference).value) ↔
      target ∈ Targets code settings gettext anchor := by
  simp only [List.mem_filterMap, leads_iff]
  rfl

theorem mentioned_of_mem {settings : PlayerSettings} {gettext anchor target : Nat}
    (member : target ∈ Targets code settings gettext anchor) : code.references anchor ≠ [] := by
  obtain ⟨reference, mention, _⟩ := member
  exact List.ne_nil_of_mem mention

section Run

variable (prepared : Prepared owner config rodata code) {gettext anchor : Nat}
  (exports : owner.Exports config.player.gettextExport gettext)
  (anchored : Anchored rodata config.player.anchor anchor)
include prepared exports anchored

/-- Where the text is mentioned, all hangs on what the calls behind the mentions lead to. -/
theorem result_of_mentioned (mentioned : code.references anchor ≠ []) :
    (resolve owner config).result = do
      let target ← (single .player (.ofCandidates ((code.references anchor).filterMap
        fun reference => (candidate code config.player gettext reference).value))).result
      (requireInside .player owner target).result
      return target := by
  simp only [resolve, search, result_within, Attempt.result_bind, result_ofExcept,
    prepared.required_rodata, prepared.required_code, mapError_ok, ok_bind,
    result_requiredExport_of_exports prepared.disjoint exports,
    result_uniqueAnchor_of_anchored anchored, List.isEmpty_iff, mentioned, if_false,
    Attempt.result_lift, Attempt.result_emit, Attempt.result_pure, Traced.value_mapM,
    List.filterMap_map, Function.comp_def, id_eq]
  rfl

theorem result_of_decided {target : Nat}
    (decided : Targets code config.player gettext anchor = {target}) :
    (resolve owner config).result =
      (requireInside .player owner target).result >>= fun _ => .ok target := by
  have mentioned := mentioned_of_mem (decided.symm ▸ Set.mem_singleton target)
  rw [result_of_mentioned prepared exports anchored mentioned,
    result_single_of_decided mem_survivors_iff decided, ok_bind]
  rfl

end Run

theorem result_of_finds (prepared : Prepared owner config rodata code) {target : Nat}
    (finds : Finds owner config rodata code target) :
    (resolve owner config).result = .ok target := by
  obtain ⟨gettext, anchor, exports, anchored, decided, inside⟩ := finds
  rw [result_of_decided prepared exports anchored decided,
    result_requireInside_of_inside prepared.disjoint inside, ok_bind]

theorem result_of_fails (prepared : Prepared owner config rodata code) {halt : Halt}
    (fails : Fails owner config rodata code halt) :
    (resolve owner config).result = .error halt := by
  have disjoint := prepared.disjoint
  cases fails with
  | unexported unexported =>
    simp only [resolve, search, result_within, Attempt.result_bind, result_ofExcept,
      prepared.required_rodata, prepared.required_code, mapError_ok, ok_bind,
      result_requiredExport_of_unexported disjoint unexported, error_bind]
  | unanchored exports unanchored =>
    simp only [resolve, search, result_within, Attempt.result_bind, result_ofExcept,
      prepared.required_rodata, prepared.required_code, mapError_ok, ok_bind,
      result_requiredExport_of_exports disjoint exports,
      result_uniqueAnchor_of_unanchored unanchored, error_bind]
  | unmentioned exports anchored none =>
    simp only [resolve, search, result_within, Attempt.result_bind, result_ofExcept,
      prepared.required_rodata, prepared.required_code, mapError_ok, ok_bind,
      result_requiredExport_of_exports disjoint exports,
      result_uniqueAnchor_of_anchored anchored, none]
    rfl
  | undecided exports anchored mentioned undecided =>
    rw [result_of_mentioned prepared exports anchored mentioned,
      result_single_of_undecided mem_survivors_iff undecided, error_bind]
  | outside exports anchored decided outside =>
    rw [result_of_decided prepared exports anchored decided,
      result_requireInside_of_outside disjoint outside, error_bind]

theorem finds_or_fails (owner : LoadedModule) (config : Config) (rodata code : Segment) :
    (∃ target, Finds owner config rodata code target) ∨
      ∃ halt, Fails owner config rodata code halt := by
  rcases exports_or_unexported .player owner config.player.gettextExport with
    ⟨gettext, exports⟩ | ⟨halt, unexported⟩
  · rcases anchored_or_unanchored rodata config.player.anchor with
      ⟨anchor, anchored⟩ | ⟨reason, unanchored⟩
    · by_cases none : code.references anchor = []
      · exact .inr ⟨_, .unmentioned exports anchored none⟩
      · rcases decided_or_undecided (@mem_survivors_iff code config.player gettext anchor) with
          ⟨target, decided⟩ | ⟨reason, undecided⟩
        · by_cases inside : owner.Inside target
          · exact .inl ⟨target, gettext, anchor, exports, anchored, decided, inside⟩
          · exact .inr ⟨_, .outside exports anchored decided inside⟩
        · exact .inr ⟨_, .undecided exports anchored none undecided⟩
    · exact .inr ⟨_, .unanchored exports unanchored⟩
  · exact .inr ⟨_, .unexported unexported⟩

/-- **The search for the message function is exact**, both in what it finds and in why it finds
nothing, and both positions are among the calls wherever they are looked up, behind whatever
address of whatever segment. -/
theorem message_exact (prepared : Prepared owner config rodata code) :
    (∀ target, (resolve owner config).result = .ok target ↔
      Finds owner config rodata code target) ∧
    (∀ halt, (resolve owner config).result = .error halt ↔
      Fails owner config rodata code halt) ∧
    ∀ (segment : Segment) (reference : Nat),
      let calls := (segment.rawCalls reference config.player.callWindow).value
      config.player.minCalls ≤ calls.length →
        config.player.gettextIndex < calls.length ∧ config.player.resultIndex < calls.length := by
  obtain ⟨found, failed⟩ := exact_of_total (fun _ => result_of_finds prepared)
    (fun _ => result_of_fails prepared) (finds_or_fails owner config rodata code)
  refine ⟨found, failed, ?_⟩
  intro segment reference calls enough
  have usable := prepared.usable
  exact ⟨usable.gettextIndex.trans_le enough, usable.resultIndex.trans_le enough⟩

theorem message_of_complete : ∃ owner rodata code,
    Prepared owner Specimen.settings rodata code ∧
      Finds owner Specimen.settings rodata code 0x400187 := by
  have computed : (LoadedModule.openInOrder? "host.exe" Specimen.complete {}).any (fun owner =>
      (owner.segment? Specimen.settings.segments.rodata).isSome &&
        (owner.segment? Specimen.settings.segments.code).isSome &&
        (Checked.player owner Specimen.settings).run = .ok (.ok 0x400187)) = true := by
    decide +kernel
  obtain ⟨owner, rodata, code, opened, prepared, ended⟩ := Prepared.of_computed rfl computed
  have low := LoadedModule.low_of_load opened (by decide +kernel) (by decide +kernel)
  have agrees := Checked.player_agrees low prepared.usable
  have resolved := Except.ok.inj (agrees.symm.trans (of_decide_eq_true ended))
  exact ⟨owner, rodata, code, prepared, ((message_exact prepared).1 _).mp resolved⟩

end Landmark.Symbol.Player
