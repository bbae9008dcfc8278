import Landmark.Proofs.Checked.Symbol
import Landmark.Proofs.Segment.Compare
import Landmark.Proofs.Symbol.Steps

/-! # When the globals are found

The exported function lies in one segment, and in its first bytes there is one thing that looks
like a compare with zero, or there is not. What it compares has to lie in the module, and the
globals start in front of it. The search comes to that start or says which of these fails first.
-/

namespace Landmark.Symbol.Globals

open Log Search

variable {owner : LoadedModule} {config : Config} {segment : Segment} {function field : Nat}

/-- The export stands for a function of a segment. -/
structure StartsIn (owner : LoadedModule) (config : Config) (segment : Segment) (function : Nat) :
    Prop where
  exported : owner.export? config.globals.function = some function
  member : segment ∈ owner.segments
  below : segment.base < function
  above : function < segment.stop

/-- The only compare with zero in the first bytes of the function is that of the field. -/
def Tests (config : Config) (segment : Segment) (function field : Nat) : Prop :=
  segment.ComparesOnly function config.globals.scanWindow field

/-- Where the search ends with the start of the globals. -/
def Finds (owner : LoadedModule) (config : Config) (start : Nat) : Prop :=
  ∃ segment function field, StartsIn owner config segment function ∧
    Tests config segment function field ∧ owner.Inside field ∧
    config.globals.playerFieldOffset ≤ field ∧ start = field - config.globals.playerFieldOffset

/-- Where it ends without one. Each reason takes for granted that none above it applies. -/
inductive Fails (owner : LoadedModule) (config : Config) : Halt → Prop where
  | unexported {halt : Halt} : Unexported .globals owner config.globals.function halt →
    Fails owner config halt
  | unclear {segment : Segment} {function : Nat} : StartsIn owner config segment function →
    (∀ field, ¬Tests config segment function field) →
    Fails owner config (.of .globals (.patternNotUnique pattern))
  | outside {segment : Segment} {function field : Nat} : StartsIn owner config segment function →
    Tests config segment function field → ¬owner.Inside field →
    Fails owner config (.of .globals (.outsideModule field))
  | front {segment : Segment} {function field : Nat} : StartsIn owner config segment function →
    Tests config segment function field → owner.Inside field →
    field < config.globals.playerFieldOffset →
    Fails owner config (.of .globals (.outsideModule field))

theorem StartsIn.exports (starts : StartsIn owner config segment function) :
    owner.Exports config.globals.function function :=
  ⟨starts.exported, segment, starts.member, starts.below, starts.above⟩

theorem StartsIn.tests_iff (starts : StartsIn owner config segment function) :
    (segment.onlyRawCompare function config.globals.scanWindow).value = some field ↔
      Tests config segment function field := by
  rw [Segment.onlyRawCompare_eq_some_iff]
  exact and_iff_right ⟨Nat.le_of_lt starts.below, starts.above⟩

section Run

variable (disjoint : owner.segments.Pairwise fun a b => a.stop ≤ b.base)
include disjoint

theorem result_of_unexported {halt : Halt}
    (unexported : Unexported .globals owner config.globals.function halt) :
    (resolve owner config).result = .error halt := by
  simp only [resolve, search, result_within, Attempt.result_bind,
    result_requiredExport_of_unexported disjoint unexported, error_bind]

/-- Where the function lies in a segment, all hangs on what it tests. -/
theorem result_of_startsIn (starts : StartsIn owner config segment function) :
    (resolve owner config).result =
      match (segment.onlyRawCompare function config.globals.scanWindow).value with
      | none => .error (.of .globals (.patternNotUnique pattern))
      | some field => (requireInside .globals owner field).result >>= fun _ =>
        if field < config.globals.playerFieldOffset then
          .error (.of .globals (.outsideModule field))
        else .ok (field - config.globals.playerFieldOffset) := by
  have around : owner.requireSegmentAt function = .ok segment := by
    rw [LoadedModule.requireSegmentAt, (LoadedModule.segmentAt?_eq_some_iff disjoint).mpr
      ⟨starts.member, starts.below, starts.above⟩]
  simp only [resolve, search, result_within, Attempt.result_bind,
    result_requiredExport_of_exports disjoint starts.exports, result_ofExcept, around,
    mapError_ok, ok_bind, Attempt.result_lift]
  cases (segment.onlyRawCompare function config.globals.scanWindow).value with
  | none => rfl
  | some field =>
    simp only [Attempt.result_bind]
    congr 1
    funext done
    split <;> rfl

variable (starts : StartsIn owner config segment function)
include starts

theorem result_of_tests (tests : Tests config segment function field) :
    (resolve owner config).result = (requireInside .globals owner field).result >>= fun _ =>
      if field < config.globals.playerFieldOffset then
        .error (.of .globals (.outsideModule field))
      else .ok (field - config.globals.playerFieldOffset) := by
  rw [result_of_startsIn disjoint starts, starts.tests_iff.mpr tests]

theorem result_of_unclear (unclear : ∀ field, ¬Tests config segment function field) :
    (resolve owner config).result = .error (.of .globals (.patternNotUnique pattern)) := by
  have none_tested :
      (segment.onlyRawCompare function config.globals.scanWindow).value = none := by
    rw [Option.eq_none_iff_forall_ne_some]
    exact fun field compared => unclear field (starts.tests_iff.mp compared)
  rw [result_of_startsIn disjoint starts, none_tested]

end Run

theorem result_of_finds (disjoint : owner.segments.Pairwise fun a b => a.stop ≤ b.base)
    {start : Nat} (finds : Finds owner config start) :
    (resolve owner config).result = .ok start := by
  obtain ⟨segment, function, field, starts, tests, inside, behind, rfl⟩ := finds
  rw [result_of_tests disjoint starts tests, result_requireInside_of_inside disjoint inside,
    ok_bind, if_neg (Nat.not_lt.mpr behind)]

theorem result_of_fails (disjoint : owner.segments.Pairwise fun a b => a.stop ≤ b.base)
    {halt : Halt} (fails : Fails owner config halt) :
    (resolve owner config).result = .error halt := by
  cases fails with
  | unexported unexported => exact result_of_unexported disjoint unexported
  | unclear starts unclear => exact result_of_unclear disjoint starts unclear
  | outside starts tests outside =>
    rw [result_of_tests disjoint starts tests, result_requireInside_of_outside disjoint outside,
      error_bind]
  | front starts tests inside front =>
    rw [result_of_tests disjoint starts tests, result_requireInside_of_inside disjoint inside,
      ok_bind, if_pos front]

theorem finds_or_fails (owner : LoadedModule) (config : Config) :
    (∃ start, Finds owner config start) ∨ ∃ halt, Fails owner config halt := by
  rcases exports_or_unexported .globals owner config.globals.function with
    ⟨function, exported, segment, member, below, above⟩ | ⟨halt, unexported⟩
  · have starts : StartsIn owner config segment function := ⟨exported, member, below, above⟩
    by_cases clear : ∃ field, Tests config segment function field
    · obtain ⟨field, tests⟩ := clear
      by_cases inside : owner.Inside field
      · rcases Nat.lt_or_ge field config.globals.playerFieldOffset with front | behind
        · exact .inr ⟨_, .front starts tests inside front⟩
        · exact .inl ⟨_, segment, function, field, starts, tests, inside, behind, rfl⟩
      · exact .inr ⟨_, .outside starts tests inside⟩
    · exact .inr ⟨_, .unclear starts (not_exists.mp clear)⟩
  · exact .inr ⟨_, .unexported unexported⟩

/-- The search ends with an address or a reason, and each where it says. -/
theorem resolve_exact (disjoint : owner.segments.Pairwise fun a b => a.stop ≤ b.base) :
    (∀ start, (resolve owner config).result = .ok start ↔ Finds owner config start) ∧
      ∀ halt, (resolve owner config).result = .error halt ↔ Fails owner config halt :=
  exact_of_total (fun _ => result_of_finds disjoint) (fun _ => result_of_fails disjoint)
    (finds_or_fails owner config)

/-- **The search for the globals is exact**, both in what it finds and in why it finds nothing,
and so is the scan that it rests on, from whatever address of whatever segment. The machine does
both, where what it adds up can be written down. -/
theorem globals_exact {name : String} {view : Image.View} {limits : OpeningLimits}
    (opened : (LoadedModule.load name view limits).result = .ok owner) (config : Config) :
    (∀ start, (resolve owner config).result = .ok start ↔ Finds owner config start) ∧
    (∀ halt, (resolve owner config).result = .error halt ↔ Fails owner config halt) ∧
    (∀ (segment : Segment) (start window operand : Nat),
      (segment.onlyRawCompare start window).value = some operand ↔
        (segment.base ≤ start ∧ start < segment.stop) ∧
          segment.ComparesOnly start window operand) ∧
    (∀ (segment : Segment) (start window : Nat),
      segment.stop < Checked.word → segment.size + 7 < Checked.word →
        Checked.onlyRawCompare segment start window =
          .ok (segment.onlyRawCompare start window).value) ∧
    (view.stop < Checked.word →
      (∀ function, owner.export? config.globals.function = some function →
        function < Checked.word) →
      Agrees (Checked.globals owner config) (resolve owner config)) := by
  obtain ⟨found, failed⟩ := @resolve_exact owner config (LoadedModule.disjoint_of_load opened)
  refine ⟨found, failed, fun _ _ _ _ => Segment.onlyRawCompare_eq_some_iff,
    fun _ _ _ room short => Checked.onlyRawCompare_eq room short _ _, fun room exported => ?_⟩
  refine Checked.globals_agrees exported fun segment member => ⟨?_, ?_⟩
  · exact Nat.lt_of_le_of_lt (LoadedModule.stop_le_of_load opened member) room
  · have small := LoadedModule.size_lt_of_load opened member
    unfold Checked.word
    omega

theorem globals_of_complete : ∃ owner,
    (LoadedModule.load "host.exe" Specimen.complete {}).result = .ok owner ∧
      Finds owner Specimen.settings 0x400170 := by
  have computed : (LoadedModule.openInOrder? "host.exe" Specimen.complete {}).any (fun owner =>
      (resolve owner Specimen.settings).result.toOption = some 0x400170) = true := by
    decide +kernel
  obtain ⟨owner, found, resolved⟩ := (Option.any_eq_true _ _).mp computed
  have opened := LoadedModule.load_of_openInOrder? found
  have ended := toOption_eq_some_iff.mp (of_decide_eq_true resolved)
  exact ⟨owner, opened, ((globals_exact opened Specimen.settings).1 _).mp ended⟩

end Landmark.Symbol.Globals
