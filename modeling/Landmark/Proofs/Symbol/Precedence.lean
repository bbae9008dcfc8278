import Landmark.Proofs.Routine.Redecoding
import Landmark.Proofs.Symbol.Notifier

/-! # What stands between the two calls of the notifier

The list of calls, in which the notifier is looked for, leaves out those without a known target.
So the two calls of a pair need not be neighbours in the exported function: others may stand
between them, but none of these names the place where it leads.
-/

namespace Landmark

open Log

/-- Between the origins of two neighbours that a filter keeps, it keeps nothing. -/
theorem exists_split_of_filterMap {α β : Type} {f : α → Option β} {row : List α}
    {front behind : List β} {a b : β} (kept : row.filterMap f = front ++ a :: b :: behind) :
    ∃ before x between y after, row = before ++ x :: (between ++ y :: after) ∧ f x = some a ∧
      f y = some b ∧ ∀ z ∈ between, f z = none := by
  obtain ⟨early, late, rfl, _, kept⟩ := List.filterMap_eq_append_iff.mp kept
  obtain ⟨skipped, x, rest, rfl, _, here, kept⟩ := List.filterMap_eq_cons_iff.mp kept
  obtain ⟨between, y, after, rfl, none, there, _⟩ := List.filterMap_eq_cons_iff.mp kept
  exact ⟨early ++ skipped, x, between, y, after, by simp, here, there, none⟩

/-- In a row of instructions that stand behind each other, what lies between two of them by its
address does so by its place. -/
theorem mem_between {before between after : List Decoding} {first second call : Decoding}
    (apart : (before ++ first :: (between ++ second :: after)).Pairwise
      fun a b => a.stop ≤ b.address)
    (member : call ∈ before ++ first :: (between ++ second :: after))
    (above : first.address < call.address) (below : call.address < second.address) :
    call ∈ between := by
  have ascends : ∀ i : Decoding, i.address ≤ i.stop := fun i => Nat.le_add_right _ _
  obtain ⟨_, onward, early⟩ := List.pairwise_append.mp apart
  obtain ⟨_, onward⟩ := List.pairwise_cons.mp onward
  obtain ⟨late, _⟩ := List.pairwise_cons.mp (List.pairwise_append.mp onward).2.1
  simp only [List.mem_append, List.mem_cons] at member
  rcases member with inFront | rfl | inside | rfl | behind
  · have ends := early call inFront first (by simp)
    have := ascends call
    omega
  · omega
  · exact inside
  · omega
  · have ends := late call behind
    have := ascends second
    omega

namespace Symbol.Notifier

variable {name : String} {view : Image.View} {limits : OpeningLimits} {owner : LoadedModule}
  {config : Config} {found : NotifierAddresses} {routine : Routine}

/-- A call of a function whose target no operand says. It is left out, and reported as indirect. -/
structure Unclear (routine : Routine) (call : Decoding) : Prop where
  unknown : routine.target? call = none
  skipped : routine.Skips call
  operand : ∃ whole, routine.detail? call = some whole ∧ whole.mnemonic.category = .call ∧
    ∀ width target, .nearTarget width target ∉ whole.operands.head?

/-- The notifier is asked for by one call of a function and told by another, and no call between
them is direct. -/
structure Precedes (routine : Routine) (found : NotifierAddresses) (first second : Decoding) :
    Prop where
  listed : first ∈ routine.calls none
  followed : second ∈ routine.calls none
  asks : routine.target? first = some found.instance
  tells : routine.target? second = some found.notify
  apart : first.stop ≤ second.address
  between : ∀ call ∈ routine.calls none, first.address < call.address →
    call.address < second.address → Unclear routine call

theorem exists_split_of_mem_neighbours {calls : List Nat} (member : found ∈ neighbours calls) :
    ∃ front behind, calls = front ++ found.instance :: found.notify :: behind := by
  obtain ⟨k, asked, told⟩ := mem_neighbours_iff.mp member
  obtain ⟨here, asked⟩ := List.getElem?_eq_some_iff.mp asked
  obtain ⟨next, told⟩ := List.getElem?_eq_some_iff.mp told
  refine ⟨calls.take k, calls.drop (k + 2), ?_⟩
  calc
    calls = calls.take k ++ calls.drop k := (List.take_append_drop k calls).symm
    _ = calls.take k ++ calls[k] :: calls[k + 1] :: calls.drop (k + 2) := by
      rw [List.drop_eq_getElem_cons here, List.drop_eq_getElem_cons next]
    _ = calls.take k ++ found.instance :: found.notify :: calls.drop (k + 2) := by
      rw [asked, told]

section Traced

variable {task : Discovery.Task} {entry : Nat}
  {detail : Nat → Bytes → Except DecodeError X86.Instruction} (steady : Steady detail)
  (reader : task.disassembler = .ofDetail detail) (yields : task.Yields entry routine)
include steady reader yields

theorem unclear_of_target?_eq_none {call : Decoding} (among : call ∈ routine.calls none)
    (unknown : routine.target? call = none) : Unclear routine call := by
  have same := yields.disassembler_eq.trans reader
  obtain ⟨inRoutine, isCall⟩ := List.mem_filter.mp among
  obtain ⟨whole, _, _, _, saw⟩ := task.exists_saw reader yields inRoutine
  have isCall : whole.mnemonic.category = .call := by
    rw [saw.isCall_eq] at isCall
    simpa using isCall
  have none : whole.nearTarget? = none := by rwa [← saw.target?_eq steady same]
  refine {
    unknown
    skipped := Routine.skips_of_target?_eq_none steady same inRoutine saw isCall none
    operand := ⟨whole, saw.detail?_eq steady same, isCall, fun width target near => ?_⟩ }
  cases none.symm.trans (X86.Instruction.nearTarget?_eq_some_iff.mpr ⟨width, near⟩)

theorem precedes_of_mem_neighbours
    (member : found ∈ neighbours (routine.callTargets none).value) :
    ∃ first second, Precedes routine found first second := by
  have located : task.disassembler.Located := reader ▸ Disassembler.located_ofDetail
  obtain ⟨front, behind, kept⟩ := exists_split_of_mem_neighbours member
  obtain ⟨before, first, between, second, after, split, asks, tells, skipped⟩ :=
    exists_split_of_filterMap kept
  have calls : (routine.calls none).Pairwise fun a b => a.stop ≤ b.address :=
    (yields.apart located).filter _
  refine ⟨first, second, {
    listed := by simp [split]
    followed := by simp [split]
    asks, tells
    apart := ?_
    between := fun call among above below =>
      unclear_of_target?_eq_none steady reader yields among ?_ }⟩
  · rw [split] at calls
    exact (List.pairwise_cons.mp (List.pairwise_append.mp calls).2.1).1 second (by simp)
  · rw [split] at calls among
    exact skipped call (mem_between calls among above below)

end Traced

/-- **The notifier is told by the next direct call.** In the exported function the call that asks
for it is the last direct one in front of the call that tells it. Decoders only have to depend on
the bytes of an instruction alone. -/
theorem resolve_precedes [Decoder] (steady : ∀ mode, Steady (Decoder.decode mode))
    (opened : (LoadedModule.load name view limits).result = .ok owner)
    (resolved : (resolve owner config).result = .ok found) :
    ∃ caller routine first second, owner.Exports config.notifier.callerExport caller ∧
      owner.Yields config.parser.maxInstructions caller routine ∧
      Precedes routine found first second := by
  have disjoint := LoadedModule.disjoint_of_load opened
  obtain ⟨_, _, _, candidates, caller, routine, _, _, _, _, _, exported, parsed, one, _⟩ :=
    resolve_eq_ok_iff.mp resolved
  have exports := (LoadedModule.result_function?_eq_some_iff disjoint).mp exported
  obtain ⟨answer, ended, same⟩ := LoadedModule.exists_result_routineAt? disjoint exports.2
  have yields := (same routine).mp (Except.ok.inj (ended.symm.trans parsed))
  obtain ⟨some, all⟩ := Survivor.ofCandidates_eq_one_iff.mp one
  obtain ⟨pair, among⟩ := List.exists_mem_of_ne_nil _ some
  have member : found ∈ neighbours (routine.callTargets none).value :=
    all pair among ▸ (List.mem_filter.mp among).1
  have ⟨_, _, _, _, traced⟩ := yields
  obtain ⟨first, second, precedes⟩ := precedes_of_mem_neighbours
    (Decoder.steady_detail steady owner.bits) rfl traced member
  exact ⟨caller, routine, first, second, exports, yields, precedes⟩

end Symbol.Notifier

/-- Like the complete specimen, but the export calls through a register between its two direct
calls. -/
def Specimen.interposed : Image.View :=
  image "c"
    ([0xCC, 0xE8, 0x22, 0, 0, 0, 0xFF, 0xD0, 0xE8, 0x03, 0, 0, 0, 0xC3, 0xCC, 0xCC] ++
      [0x68, 0x90, 0x01, 0x40, 0, 0xE8, 0xE7, 0xFF, 0xFF, 0xFF, 0xE8, 0x08, 0, 0, 0, 0xC3] ++
      [0x83, 0x3D, 0x70, 0x01, 0x40, 0, 0] ++ List.replicate 9 0xC3)
    (Text.Utf8.encode "CV")

namespace Symbol.Notifier

theorem exists_interposed : ∃ owner routine,
    (LoadedModule.load "host.exe" Specimen.interposed {}).result = .ok owner ∧
      (resolve owner Specimen.settings).result = .ok ⟨0x400188, 0x400170⟩ ∧
      owner.export? "c" = some 0x400161 ∧
      (owner.routineAt? 0x400161 Specimen.settings.parser.maxInstructions).result =
        .ok (some routine) ∧
      (routine.calls none).map routine.target? = [some 0x400188, none, some 0x400170] := by
  have computed : (LoadedModule.openInOrder? "host.exe" Specimen.interposed {}).any (fun owner =>
      (owner.segment? Specimen.settings.segments.rodata).isSome &&
        (owner.segment? Specimen.settings.segments.code).isSome &&
        ((Checked.notifier owner Specimen.settings).run = .ok (.ok ⟨0x400188, 0x400170⟩) &&
          owner.export? "c" = some 0x400161 &&
          (Checked.routineAt? owner 0x400161
            Specimen.settings.parser.maxInstructions).run.toOption.any fun answer =>
              answer.toOption.any fun parsed => parsed.any fun routine =>
                (routine.calls none).map routine.target? =
                  [some 0x400188, none, some 0x400170])) = true := by
    decide +kernel
  obtain ⟨owner, rodata, code, opened, prepared, held⟩ := Prepared.of_computed rfl computed
  have low := LoadedModule.low_of_load opened (by decide +kernel) (by decide +kernel)
  simp only [Bool.and_eq_true, decide_eq_true_eq, Option.any_eq_true, toOption_eq_some_iff] at held
  obtain ⟨⟨ended, exported⟩, _, parsed, _, rfl, routine, rfl, targets⟩ := held
  have resolved := (Checked.notifier_agrees low X86.short_decoder prepared.usable).symm.trans ended
  have parses := (Checked.routineAt?_agrees low X86.short_decoder _ _).symm.trans parsed
  exact ⟨owner, routine, opened, Except.ok.inj resolved, exported, Except.ok.inj parses, targets⟩

theorem precedes_of_interposed : ∃ owner,
    (LoadedModule.load "host.exe" Specimen.interposed {}).result = .ok owner ∧
      ∃ caller routine first second, owner.Exports "c" caller ∧
        owner.Yields Specimen.settings.parser.maxInstructions caller routine ∧
        Precedes routine ⟨0x400188, 0x400170⟩ first second := by
  obtain ⟨owner, _, opened, resolved, _⟩ := exists_interposed
  exact ⟨owner, opened, resolve_precedes X86.steady_decoder opened resolved⟩

/-- The pair comes of two calls with no call between them, direct or not. -/
def Adjacent (routine : Routine) (found : NotifierAddresses) : Prop :=
  ∃ front first second behind, routine.calls none = front ++ first :: second :: behind ∧
    routine.target? first = some found.instance ∧ routine.target? second = some found.notify

theorem not_adjacent_of_interposed : ∃ owner found,
    (LoadedModule.load "host.exe" Specimen.interposed {}).result = .ok owner ∧
      Specimen.settings.validate = .ok () ∧ (resolve owner Specimen.settings).result = .ok found ∧
      ∀ caller routine, owner.Exports Specimen.settings.notifier.callerExport caller →
        owner.Yields Specimen.settings.parser.maxInstructions caller routine →
        ¬Adjacent routine found := by
  obtain ⟨owner, parsed, opened, resolved, exported, parses, targets⟩ := exists_interposed
  refine ⟨owner, _, opened, rfl, resolved, ?_⟩
  rintro caller routine exports yields ⟨front, first, second, behind, split, asks, tells⟩
  have disjoint := LoadedModule.disjoint_of_load opened
  obtain rfl := Option.some.inj (exported.symm.trans exports.1)
  have yielded := LoadedModule.result_routineAt?_of_yields disjoint yields
  obtain rfl := Option.some.inj (Except.ok.inj (parses.symm.trans yielded))
  rw [split, List.map_append, List.map_cons, List.map_cons, asks, tells] at targets
  -- The list has three entries, and the one behind the first of the pair is unknown.
  match front with
  | [] => cases targets
  | [_] => simp at targets
  | [_, _] => simp at targets
  | _ :: _ :: _ :: _ => simp at targets

end Symbol.Notifier

end Landmark
