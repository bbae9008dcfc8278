import Landmark.Proofs.Bytes
import Landmark.Proofs.LoadedModule.Lookup
import Landmark.Proofs.LoadedModule.Specimen
import Landmark.Proofs.Segment.Search
import Landmark.Proofs.Symbol.Outcome
import Landmark.X86.Encode

/-! # The calls of the player's message

The text of the message is pushed and three calls follow. The search takes the first and
the third of what looks like a call from inside the push on, so it answers with the
third call only while no operand in between holds a byte 0xE8, and only while the first
and the third call do not lead around the end of the address space.
-/

namespace Landmark

open Log

namespace Segment

/-- Where the processor goes on a call of 32 bits whose next instruction stands at `next`. -/
def callee (next : Nat) (distance : Bytes) : Nat := (next + Bytes.toNat distance) % 0x100000000

/-- A call can lead from `next` to `target` without going around the end of the address space. -/
def Near (next target : Nat) : Prop := target < next + 0x80000000 ∧ next ≤ target + 0x80000000

/-- The scan and the processor agree on a call exactly where it is near. -/
theorem reach_eq_callee_iff {next : Nat} {distance : Bytes} (four : distance.length = 4)
    (low : next ≤ 0x100000000) :
    reach next (Bytes.toNat distance) = callee next distance ↔
      Near next (callee next distance) := by
  have bound := Bytes.toNat_lt distance
  rw [four] at bound
  simp only [reach, callee, Near]
  split <;> omega

theorem reach_eq_callee_of_lt {next : Nat} {distance : Bytes}
    (low : reach next (Bytes.toNat distance) < 0x100000000) :
    reach next (Bytes.toNat distance) = callee next distance := by
  simp only [reach, callee] at low ⊢
  split at low <;> split <;> omega

theorem scan_operand {operand distance : Bytes} (operandFour : operand.length = 4)
    (four : distance.length = 4) (rest : Bytes) (window place : Nat) :
    ∃ calls, calls.length = operand.count 0xE8 ∧
      scan callAt (operand ++ 0xE8 :: (distance ++ rest)) (window + 5) place =
        calls ++ reach (place + 9) (Bytes.toNat distance) ::
          scan callAt (distance ++ rest) window (place + 5) := by
  have long : 4 ≤ (0xE8 :: (distance ++ rest)).length := by
    rw [List.length_cons, List.length_append]
    omega
  obtain ⟨calls, count, behind⟩ := scan_append operand long (window + 1) place
  have windows : operand.length + (window + 1) = window + 5 := by omega
  rw [windows, operandFour, scan_call four] at behind
  exact ⟨calls, count, behind⟩

/-- What the scan comes upon from the operand of a push on that three calls follow: the calls, and
one more for each byte 0xE8 of the operands in front of the third. -/
theorem scan_threeCalls {pushed first second third : Bytes} (pushedFour : pushed.length = 4)
    (firstFour : first.length = 4) (secondFour : second.length = 4) (thirdFour : third.length = 4)
    (rest : Bytes) (window place : Nat) :
    ∃ before between among behind, before.length = pushed.count 0xE8 ∧
      between.length = first.count 0xE8 ∧ among.length = second.count 0xE8 ∧
      scan callAt (pushed ++ 0xE8 :: (first ++ 0xE8 :: (second ++ 0xE8 :: (third ++ rest))))
          (window + 19) place =
        before ++ reach (place + 9) (Bytes.toNat first) ::
          (between ++ reach (place + 14) (Bytes.toNat second) ::
            (among ++ reach (place + 19) (Bytes.toNat third) :: behind)) := by
  obtain ⟨before, beforeCount, atFirst⟩ := scan_operand pushedFour firstFour
    (0xE8 :: (second ++ 0xE8 :: (third ++ rest))) (window + 14) place
  obtain ⟨between, betweenCount, atSecond⟩ := scan_operand firstFour secondFour
    (0xE8 :: (third ++ rest)) (window + 9) (place + 5)
  obtain ⟨among, amongCount, atThird⟩ := scan_operand secondFour thirdFour rest (window + 4)
    (place + 10)
  simp only [Nat.add_assoc, Nat.reduceAdd] at atFirst atSecond atThird
  refine ⟨before, between, among, scan callAt (third ++ rest) (window + 4) (place + 15),
    beforeCount, betweenCount, amongCount, ?_⟩
  rw [atFirst, atSecond, atThird]

theorem rawCalls_threeCalls {segment : Segment} {pushed first second third : Bytes}
    {reference window : Nat} (inside : segment.contains reference = true)
    (pushedFour : pushed.length = 4) (firstFour : first.length = 4)
    (secondFour : second.length = 4) (thirdFour : third.length = 4)
    (bytes : 0x68 :: pushed ++ 0xE8 :: first ++ 0xE8 :: second ++ 0xE8 :: third <+:
      segment.data.drop (reference - 1 - segment.base))
    (wide : 0x13 ≤ window) :
    ∃ before between among behind, before.length = pushed.count 0xE8 ∧
      between.length = first.count 0xE8 ∧ among.length = second.count 0xE8 ∧
      (segment.rawCalls reference window).value =
        before ++ reach (reference + 9) (Bytes.toNat first) ::
          (between ++ reach (reference + 14) (Bytes.toNat second) ::
            (among ++ reach (reference + 19) (Bytes.toNat third) :: behind)) := by
  obtain ⟨below, above⟩ := contains_iff.mp inside
  have there : segment.bytesFrom? reference =
      some (segment.data.drop (reference - segment.base)) := by
    rw [bytesFrom?, offset?, if_pos ⟨Nat.le_of_lt below, above⟩, Option.map_some]
  obtain ⟨rest, split⟩ := bytes
  have behindPush : segment.data.drop (reference - segment.base) =
      pushed ++ 0xE8 :: (first ++ 0xE8 :: (second ++ 0xE8 :: (third ++ rest))) := by
    have next : reference - segment.base = reference - 1 - segment.base + 1 := by omega
    rw [next, ← List.drop_drop, ← split]
    simp only [List.cons_append, List.append_assoc, List.drop_succ_cons, List.drop_zero]
  obtain ⟨extra, rfl⟩ := Nat.exists_eq_add_of_le' wide
  have scanned := scan_threeCalls pushedFour firstFour secondFour thirdFour rest extra reference
  rw [← behindPush] at scanned
  simpa only [rawCalls, there, Traced.value_bind, Traced.value_pure] using scanned

end Segment

namespace Symbol.Player

variable {owner : LoadedModule} {config : Config} {code : Segment}

/-- The settings take the first of at least three calls for that of the exported function and the
third for the answer, and look far enough for both. -/
structure Positional (settings : PlayerSettings) : Prop where
  least : settings.minCalls = 3
  gettext : settings.gettextIndex = 0
  result : settings.resultIndex = 2
  wide : 0x13 ≤ settings.callWindow

theorem value_candidate_eq_some_iff {settings : PlayerSettings} (positional : Positional settings)
    {gettext reference target : Nat} :
    (candidate code settings gettext reference).value = some target ↔
      (code.rawCalls reference settings.callWindow).value[0]? = some gettext ∧
      (code.rawCalls reference settings.callWindow).value[2]? = some target := by
  simp only [candidate, Traced.value_bind, positional.least, positional.gettext, positional.result]
  split
  next few =>
    simp only [Traced.value_bind, Traced.value_pure, reduceCtorEq, false_iff, not_and]
    intro _ third
    exact Nat.lt_irrefl _ (few.trans_le (List.getElem?_eq_some_iff.mp third).1)
  next enough =>
    split
    next other =>
      simp only [Traced.value_bind, Traced.value_pure, reduceCtorEq, false_iff, not_and]
      exact fun first => absurd first other
    next same => simp only [Traced.value_pure, not_not.mp same, true_and]

/-- The code builds the message as documented: the text stands once in one segment, its address
once in the other, there as the operand of a push, and behind the push stand three calls, the first
of the exported function. -/
structure Documented (owner : LoadedModule) (config : Config) (code : Segment)
    (anchor reference : Nat) (first second third : Bytes) : Prop where
  text : ∃ rodata, owner.segment? config.segments.rodata = some rodata ∧
    rodata.OccursOnce (Text.Utf8.encode config.player.anchor) anchor
  run : owner.segment? config.segments.code = some code
  mention : code.OccursOnce (Bytes.ofNat 4 anchor) reference
  inside : code.contains reference = true
  firstFour : first.length = 4
  secondFour : second.length = 4
  thirdFour : third.length = 4
  bytes : 0x68 :: Bytes.ofNat 4 anchor ++ 0xE8 :: first ++ 0xE8 :: second ++ 0xE8 :: third <+:
    code.data.drop (reference - 1 - code.base)
  exported : owner.export? config.player.gettextExport = some (Segment.callee (reference + 9) first)
  exportInside : owner.Inside (Segment.callee (reference + 9) first)

instance (anchor reference : Nat) (first second third : Bytes) :
    Decidable (Documented owner config code anchor reference first second third) :=
  decidable_of_iff
    ((owner.segment? config.segments.rodata).any (fun rodata =>
        rodata.OccursOnce (Text.Utf8.encode config.player.anchor) anchor) = true ∧
      owner.segment? config.segments.code = some code ∧
      code.OccursOnce (Bytes.ofNat 4 anchor) reference ∧ code.contains reference = true ∧
      first.length = 4 ∧ second.length = 4 ∧ third.length = 4 ∧
      0x68 :: Bytes.ofNat 4 anchor ++ 0xE8 :: first ++ 0xE8 :: second ++ 0xE8 :: third <+:
        code.data.drop (reference - 1 - code.base) ∧
      owner.export? config.player.gettextExport =
        some (Segment.callee (reference + 9) first) ∧
      owner.Inside (Segment.callee (reference + 9) first))
    ⟨fun ⟨text, run, mention, inside, firstFour, secondFour, thirdFour, bytes, exported, within⟩ =>
      ⟨by simpa only [Option.any_eq_true, decide_eq_true_eq] using text, run, mention, inside,
        firstFour, secondFour, thirdFour, bytes, exported, within⟩,
    fun ⟨text, run, mention, inside, firstFour, secondFour, thirdFour, bytes, exported, within⟩ =>
      ⟨by simpa only [Option.any_eq_true, decide_eq_true_eq] using text, run, mention, inside,
        firstFour, secondFour, thirdFour, bytes, exported, within⟩⟩

theorem resolve_of_documented {anchor reference : Nat} {first second third : Bytes}
    (narrow : code.bits = 32)
    (disjoint : owner.segments.Pairwise fun a b => a.stop ≤ b.base)
    (positional : Positional config.player)
    (documented : Documented owner config code anchor reference first second third) (target : Nat) :
    (resolve owner config).result = .ok target ↔
      (code.rawCalls reference config.player.callWindow).value[0]? =
        some (Segment.callee (reference + 9) first) ∧
      (code.rawCalls reference config.player.callWindow).value[2]? = some target ∧
      owner.Inside target := by
  obtain ⟨rodata, read, text⟩ := documented.text
  have located := Segment.find_of_once text
  have exported := LoadedModule.function?_of_inside disjoint documented.exported
    documented.exportInside
  have mentioned : code.references anchor = [reference] := by
    rw [Segment.references, narrow]
    exact Segment.find_of_once documented.mention
  have survives (gettext : Nat) : Survivor.ofCandidates ([reference].filterMap fun reference =>
      (candidate code config.player gettext reference).value) = .one target ↔
      (candidate code config.player gettext reference).value = some target := by
    rw [Survivor.ofCandidates_eq_one_iff, List.filterMap_cons, List.filterMap_nil]
    cases (candidate code config.player gettext reference).value <;> simp
  rw [resolve_eq_ok_iff]
  constructor
  · rintro ⟨otherRodata, otherCode, gettext, otherAnchor, otherRead, otherRun, otherExported,
      otherLocated, _, one, held⟩
    rw [LoadedModule.requireSegment_eq_ok_iff, read] at otherRead
    rw [LoadedModule.requireSegment_eq_ok_iff, documented.run] at otherRun
    cases otherRead
    cases otherRun
    rw [exported] at otherExported
    rw [located] at otherLocated
    cases otherExported
    cases otherLocated
    rw [mentioned, survives, value_candidate_eq_some_iff positional] at one
    exact ⟨one.1, one.2, (LoadedModule.contains_iff_inside disjoint).mp held⟩
  · rintro ⟨called, follows, inside⟩
    refine ⟨rodata, code, _, anchor, LoadedModule.requireSegment_eq_ok_iff.mpr read,
      LoadedModule.requireSegment_eq_ok_iff.mpr documented.run, exported, located, ?_, ?_,
      (LoadedModule.contains_iff_inside disjoint).mpr inside⟩
    · rw [mentioned]
      exact List.cons_ne_nil _ _
    · rw [mentioned, survives, value_candidate_eq_some_iff positional]
      exact ⟨called, follows⟩

theorem Documented.room {anchor reference : Nat} {first second third : Bytes}
    (documented : Documented owner config code anchor reference first second third) :
    reference + 19 ≤ code.stop := by
  have long := documented.bytes.length_le
  have inside := (Segment.contains_iff.mp documented.inside).1
  simp only [List.length_append, List.length_cons, Bytes.length_ofNat, documented.firstFour,
    documented.secondFour, documented.thirdFour, List.length_drop] at long
  rw [Segment.stop, Segment.size]
  omega

/-- The search on a documented sequence. The calls it counts are the three and one more for each
byte 0xE8 of the address and of the first two distances; it answers with the third it counts where
the first is the exported function. Where none of those bytes is 0xE8 it answers with the third call
of the sequence or not at all, and it does answer where the first and the third call are near. -/
theorem resolve_threeCalls {name : String} {view : Image.View} {limits : OpeningLimits}
    {anchor reference : Nat} {first second third : Bytes}
    (opened : (LoadedModule.load name view limits).result = .ok owner)
    (narrow : owner.bits = 32) (low : view.stop ≤ 0x100000000)
    (positional : Positional config.player)
    (documented : Documented owner config code anchor reference first second third) :
    (∃ before between among behind, before.length = (Bytes.ofNat 4 anchor).count 0xE8 ∧
      between.length = first.count 0xE8 ∧ among.length = second.count 0xE8 ∧
      (code.rawCalls reference config.player.callWindow).value =
        before ++ Segment.reach (reference + 9) (Bytes.toNat first) ::
          (between ++ Segment.reach (reference + 14) (Bytes.toNat second) ::
            (among ++ Segment.reach (reference + 19) (Bytes.toNat third) :: behind))) ∧
    (∀ target, (resolve owner config).result = .ok target ↔
      (code.rawCalls reference config.player.callWindow).value[0]? =
        some (Segment.callee (reference + 9) first) ∧
      (code.rawCalls reference config.player.callWindow).value[2]? = some target ∧
      owner.Inside target) ∧
    ((Bytes.ofNat 4 anchor ++ first ++ second).count 0xE8 = 0 →
      ∀ target, (resolve owner config).result = .ok target ↔
        target = Segment.callee (reference + 19) third ∧ owner.Inside target ∧
        Segment.Near (reference + 9) (Segment.callee (reference + 9) first) ∧
        Segment.Near (reference + 19) target) := by
  obtain ⟨outline, _, represents⟩ := LoadedModule.represents_of_load opened
  have bounded : ∀ segment ∈ owner.segments, segment.bits = 32 ∧ segment.stop ≤ 0x100000000 := by
    intro segment member
    obtain ⟨header, _, mirrors⟩ := represents.exists_mirrors member
    exact ⟨mirrors.bits.trans (represents.width.symm.trans narrow), mirrors.inside.2.trans low⟩
  obtain ⟨codeNarrow, codeLow⟩ := bounded code ((represents.found _ _).mp documented.run).1
  have room := documented.room
  have answers := resolve_of_documented codeNarrow represents.disjoint positional documented
  obtain ⟨before, between, among, behind, beforeCount, betweenCount, amongCount, counted⟩ :=
    Segment.rawCalls_threeCalls documented.inside (Bytes.length_ofNat 4 anchor)
      documented.firstFour documented.secondFour documented.thirdFour documented.bytes
      positional.wide
  refine ⟨⟨before, between, among, behind, beforeCount, betweenCount, amongCount, counted⟩,
    answers, ?_⟩
  intro clean target
  rw [counted] at answers
  simp only [List.count_append, Nat.add_eq_zero_iff] at clean
  obtain ⟨⟨pushedClean, firstClean⟩, secondClean⟩ := clean
  rw [pushedClean, List.length_eq_zero_iff] at beforeCount
  rw [firstClean, List.length_eq_zero_iff] at betweenCount
  rw [secondClean, List.length_eq_zero_iff] at amongCount
  subst beforeCount betweenCount amongCount
  simp only [List.nil_append, List.getElem?_cons_zero, List.getElem?_cons_succ,
    Option.some.injEq] at answers
  rw [answers, Segment.reach_eq_callee_iff documented.firstFour (by omega)]
  have end_low : reference + 19 ≤ 0x100000000 := room.trans codeLow
  have near := Segment.reach_eq_callee_iff documented.thirdFour end_low
  constructor
  · rintro ⟨first, rfl, inside⟩
    -- A sum that is off by the address space lies above every segment.
    have bound : Segment.reach (reference + 19) (Bytes.toNat third) < 0x100000000 := by
      obtain ⟨segment, member, _, above⟩ := inside
      exact above.trans_le (bounded segment member).2
    have same := Segment.reach_eq_callee_of_lt bound
    exact ⟨same, inside, first, same ▸ near.mp same⟩
  · rintro ⟨rfl, inside, first, third⟩
    exact ⟨first, near.mpr third, inside⟩

/-- Code that builds the message behind `room` bytes of filler. In front of it stand the exported
function, the one called in between and the one that is looked for, a byte each. -/
def messageCode (room : Nat) : Bytes :=
  let push := 0x400164 + room
  [0xCC, 0xC3, 0xC3, 0xC3] ++ List.replicate room 0xCC ++ X86.Encode.push (push + 22) ++
    X86.Encode.call (push + 5) 0x400161 ++ X86.Encode.call (push + 10) 0x400162 ++
    X86.Encode.call (push + 15) 0x400163 ++ [0xC3]

def messageImage (room : Nat) : Image.View :=
  Specimen.image "?gettext_@@YAPBDPBD@Z" (messageCode room)
    (0 :: Text.Utf8.encode "Unlocked Faction" ++ [0])

def back (count : Nat) : Bytes := Bytes.ofNat 4 (0x100000000 - count)

def MessageDocumented (room : Nat) (owner : LoadedModule) (code : Segment) : Prop :=
  owner.bits = 32 ∧ owner.Inside 0x400163 ∧
    Documented owner {} code (0x40017A + room) (0x400165 + room) (back (13 + room))
      (back (17 + room)) (back (21 + room))

instance (room : Nat) (owner : LoadedModule) (code : Segment) :
    Decidable (MessageDocumented room owner code) :=
  inferInstanceAs (Decidable (_ ∧ _ ∧ _))

/-- With the usual settings all is as documented, and yet the search answers with the call in
between: the distance of the first call ends in a byte 0xE8, which counts as a call. -/
theorem answers_middle_call :
    ∃ owner code, (LoadedModule.load "host.exe" (messageImage 11) {}).result = .ok owner ∧
      (messageImage 11).stop ≤ 0x100000000 ∧ ({} : Config).validate = .ok () ∧
      Positional ({} : Config).player ∧ MessageDocumented 11 owner code ∧
      Segment.callee (0x400170 + 19) (back 32) = 0x400163 ∧
      (resolve owner {}).result = .ok 0x400162 := by
  have computed : (LoadedModule.openInOrder? "host.exe" (messageImage 11) {}).any (fun owner =>
      (owner.segment? ".text").any fun code =>
        MessageDocumented 11 owner code ∧
          (resolve owner {}).result.toOption = some 0x400162) = true := by decide +kernel
  obtain ⟨owner, opened, held⟩ := (Option.any_eq_true _ _).mp computed
  obtain ⟨code, _, checked⟩ := (Option.any_eq_true _ _).mp held
  obtain ⟨documented, resolved⟩ := of_decide_eq_true checked
  exact ⟨owner, code, LoadedModule.load_of_openInOrder? opened, by decide +kernel, rfl,
    ⟨rfl, rfl, rfl, by decide⟩, documented, by decide,
    toOption_eq_some_iff.mp resolved⟩

/-- One byte of filler more and the search answers with the third call. -/
theorem answers_third_call :
    ∃ owner code, (LoadedModule.load "host.exe" (messageImage 12) {}).result = .ok owner ∧
      (messageImage 12).stop ≤ 0x100000000 ∧ Positional ({} : Config).player ∧
      MessageDocumented 12 owner code ∧ (resolve owner {}).result = .ok 0x400163 := by
  have computed : (LoadedModule.openInOrder? "host.exe" (messageImage 12) {}).any (fun owner =>
      (owner.segment? ".text").any fun code => MessageDocumented 12 owner code) = true := by
    decide +kernel
  obtain ⟨owner, found, held⟩ := (Option.any_eq_true _ _).mp computed
  obtain ⟨code, _, checked⟩ := (Option.any_eq_true _ _).mp held
  have opened := LoadedModule.load_of_openInOrder? found
  have low : (messageImage 12).stop ≤ 0x100000000 := by decide +kernel
  have positional : Positional ({} : Config).player := ⟨rfl, rfl, rfl, by decide⟩
  have checked := of_decide_eq_true checked
  obtain ⟨narrow, inside, documented⟩ := checked
  have answers := (resolve_threeCalls opened narrow low positional documented).2.2 (by decide)
  exact ⟨owner, code, opened, low, positional, ⟨narrow, inside, documented⟩,
    (answers 0x400163).mpr ⟨by decide, inside, ⟨by decide, by decide⟩, ⟨by decide, by decide⟩⟩⟩

end Symbol.Player

end Landmark
