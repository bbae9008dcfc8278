import Landmark.Proofs.Checked.LoadedModule
import Landmark.Proofs.Segment.Calls
import Landmark.Proofs.Symbol.Globals

/-! # What the compare tests

What looks like a compare with zero is one where a disassembler starts there. In 32-bit code it
tests the address that the scan comes to, and the globals are found by the field that the function
tests. In 64-bit code it tests the place as far behind it as the operand says, while the scan still
comes to the operand. So there the field that the search goes by is not the one that is tested.
-/

namespace Landmark

open X86 (DecodesTest ReadsCompare)

namespace Segment

variable {segment : Segment} {bytes : Bytes} {start window place operand : Nat}

instance : Decidable (ComparesAt bytes window place) :=
  decidable_of_iff (place + 2 ≤ min window bytes.length ∧ place + 7 ≤ bytes.length ∧
      bytes[place]? = some 0x83 ∧ bytes[place + 1]? = some 0x3D ∧ bytes[place + 6]? = some 0)
    ⟨fun ⟨opens, fits, opcode, mode, zero⟩ => ⟨opens, fits, opcode, mode, zero⟩,
      fun ⟨opens, fits, opcode, mode, zero⟩ => ⟨opens, fits, opcode, mode, zero⟩⟩

theorem exists_eq_of_comparedAt (found : comparedAt bytes = some operand) :
    ∃ a b c d rest, bytes = [0x83, 0x3D, a, b, c, d, 0] ++ rest ∧
      operand = Bytes.toNat [a, b, c, d] := by
  unfold comparedAt at found
  split at found
  next a b c d rest => exact ⟨a, b, c, d, rest, rfl, (Option.some.inj found).symm⟩
  next => cases found

theorem ComparesAt.exists_drop_eq (compares : ComparesAt bytes window place) :
    ∃ a b c d rest, bytes.drop place = [0x83, 0x3D, a, b, c, d, 0] ++ rest ∧
      bytes.field 4 (place + 2) = Bytes.toNat [a, b, c, d] := by
  have opens := compares.opens
  have inside : place < min (window - 1) bytes.length := by omega
  exact exists_eq_of_comparedAt ((comparedAt_drop_eq_some_iff inside).mpr ⟨compares, rfl⟩)

theorem ComparesAt.lt_stop (above : segment.base ≤ start)
    (compares : ComparesAt (segment.onward start) window place) :
    start + place < segment.stop := by
  have fits := compares.fits
  rw [length_onward above] at fits
  omega

section Decodes

variable [Decoder] (reads : ReadsCompare) (room : segment.stop < Checked.word)
include reads room

/-- The only compare that the scan comes to, as a disassembler of the mode sees it. -/
theorem exists_decodesTest {mode : X86.Mode} (known : X86.Mode.ofBits? segment.bits = some mode)
    (large : mode ≠ .bits16)
    (found : (segment.onlyRawCompare start window).value = some operand) :
    ∃ place, ComparesOnlyAt (segment.onward start) window place ∧ operand < 2 ^ 32 ∧
      start + place < segment.stop ∧
      DecodesTest segment.bits (start + place) (segment.onward (start + place))
        (X86.named mode (start + place + 7) operand) := by
  obtain ⟨⟨above, _⟩, place, only, same⟩ := onlyRawCompare_eq_some_iff.mp found
  obtain ⟨a, b, c, d, rest, here, named⟩ := only.here.exists_drop_eq
  have operand_eq : operand = Bytes.toNat [a, b, c, d] := same.trans named
  have below := only.here.lt_stop above
  refine ⟨place, only, operand_eq ▸ X86.toNat_four_lt a b c d, below, ?_⟩
  rw [onward_add above, here, operand_eq]
  exact reads.decodesTest known large (below.trans room) a b c d rest

end Decodes

/-- What the operand of the only compare with zero has to do with the place that is tested. -/
structure ComparesAgree [Decoder] (segment : Segment) : Prop where
  narrow : segment.bits = 32 → ∀ start window operand,
    (segment.onlyRawCompare start window).value = some operand →
    ∃ place, ComparesOnlyAt (segment.onward start) window place ∧
      DecodesTest segment.bits (start + place) (segment.onward (start + place)) operand
  wide : segment.bits = 64 → ∀ start window operand,
    (segment.onlyRawCompare start window).value = some operand →
    ∃ place, ComparesOnlyAt (segment.onward start) window place ∧
      DecodesTest segment.bits (start + place) (segment.onward (start + place))
        (X86.landing (start + place + 7) operand) ∧
      (start + place + 7 < 2 ^ 64 → start + place + 7 ≠ 2 ^ 32 →
        X86.landing (start + place + 7) operand ≠ operand)

theorem comparesAgree [Decoder] (reads : ReadsCompare) (room : segment.stop < Checked.word) :
    segment.ComparesAgree := by
  constructor
  case narrow =>
    intro width start window operand found
    have known : X86.Mode.ofBits? segment.bits = some .bits32 := width ▸ rfl
    obtain ⟨place, only, _, _, decodes⟩ := exists_decodesTest reads room known nofun found
    rw [X86.named_bits32] at decodes
    exact ⟨place, only, decodes⟩
  case wide =>
    intro width start window operand found
    have known : X86.Mode.ofBits? segment.bits = some .bits64 := width ▸ rfl
    obtain ⟨place, only, small, _, decodes⟩ := exists_decodesTest reads room known nofun found
    rw [X86.named_bits64] at decodes
    exact ⟨place, only, decodes, fun low other => X86.landing_ne small low (Nat.succ_pos _) other⟩

end Segment

namespace Symbol.Globals

variable {owner : LoadedModule} {config : Config}

section Found

variable [Decoder]

/-- The function makes the only compare in its first bytes that looks like one with zero, and this
tests the place. -/
structure TestsPlace (owner : LoadedModule) (config : Config) (segment : Segment)
    (function place tested : Nat) : Prop where
  starts : StartsIn owner config segment function
  only : Segment.ComparesOnlyAt (segment.onward function) config.globals.scanWindow place
  decodes : DecodesTest owner.bits (function + place) (segment.onward (function + place)) tested

/-- What the search goes by, where it ends with the start of the globals. -/
structure GoesByField (owner : LoadedModule) (config : Config) : Prop where
  narrow : owner.bits = 32 → ∀ start, (resolve owner config).result = .ok start →
    ∃ segment function place, TestsPlace owner config segment function place
      (start + config.globals.playerFieldOffset)
  wide : owner.bits = 64 → ∀ start, (resolve owner config).result = .ok start →
    ∃ segment function place, TestsPlace owner config segment function place
      (X86.landing (function + place + 7) (start + config.globals.playerFieldOffset))

variable {name : String} {view : Image.View} {limits : OpeningLimits} (reads : ReadsCompare)
  (opened : (LoadedModule.load name view limits).result = .ok owner)
  (room : view.stop < Checked.word)
include reads opened room

theorem exists_testsPlace {mode : X86.Mode} (known : X86.Mode.ofBits? owner.bits = some mode)
    (large : mode ≠ .bits16) {start : Nat} (resolved : (resolve owner config).result = .ok start) :
    ∃ segment function place, TestsPlace owner config segment function place
      (X86.named mode (function + place + 7) (start + config.globals.playerFieldOffset)) := by
  obtain ⟨outline, _, represents⟩ := LoadedModule.represents_of_load opened
  have total := finds_or_fails owner config
  have disjoint := represents.disjoint
  have ends : ∀ start, (resolve owner config).result = .ok start ↔ Finds owner config start :=
    (exact_of_total (fun _ => result_of_finds disjoint) (fun _ => result_of_fails disjoint) total).1
  obtain ⟨segment, function, field, starts, tests, _, behind, rfl⟩ := (ends start).mp resolved
  obtain ⟨_, _, mirrors⟩ := represents.exists_mirrors starts.member
  -- A segment is as wide as its module and lies in the image.
  have width : segment.bits = owner.bits := mirrors.bits.trans represents.width.symm
  have low : segment.stop < Checked.word := Nat.lt_of_le_of_lt mirrors.inside.2 room
  obtain ⟨place, only, _, _, decodes⟩ := Segment.exists_decodesTest reads low
    (width.symm ▸ known) large (starts.tests_iff.mpr tests)
  refine ⟨segment, function, place, starts, only, ?_⟩
  rw [Nat.sub_add_cancel behind, ← width]
  exact decodes

/-- **What is compared and what is found.** In 32-bit code they are the same. In 64-bit code what is
found is how far behind the compare the place stands that it tests. -/
theorem tested_of_load (config : Config) :
    (∀ segment : Segment, segment.stop < Checked.word → segment.ComparesAgree) ∧
      GoesByField owner config := by
  refine ⟨fun segment low => Segment.comparesAgree reads low, ?_⟩
  constructor
  case narrow =>
    intro width start resolved
    have known : X86.Mode.ofBits? owner.bits = some .bits32 := width ▸ rfl
    simpa using exists_testsPlace reads opened room known nofun resolved
  case wide =>
    intro width start resolved
    have known : X86.Mode.ofBits? owner.bits = some .bits64 := width ▸ rfl
    simpa using exists_testsPlace reads opened room known nofun resolved

end Found

theorem tested_of_complete : ReadsCompare ∧ ∃ owner,
    (LoadedModule.load "host.exe" Specimen.complete {}).result = .ok owner ∧
      Specimen.complete.stop < Checked.word ∧
      (resolve owner Specimen.settings).result = .ok 0x400170 ∧
      ∃ segment function place,
        TestsPlace owner Specimen.settings segment function place 0x400170 := by
  have computed : (LoadedModule.openInOrder? "host.exe" Specimen.complete {}).any (fun owner =>
      owner.bits = 32 ∧
        (resolve owner Specimen.settings).result.toOption = some 0x400170) = true := by
    decide +kernel
  obtain ⟨owner, found, holds⟩ := (Option.any_eq_true _ _).mp computed
  obtain ⟨width, ended⟩ := of_decide_eq_true holds
  have opened := LoadedModule.load_of_openInOrder? found
  have resolved := toOption_eq_some_iff.mp ended
  have room : Specimen.complete.stop < Checked.word := by decide +kernel
  exact ⟨X86.readsCompare, owner, opened, room, resolved,
    (tested_of_load X86.readsCompare opened room Specimen.settings).2.narrow width _ resolved⟩

end Symbol.Globals

/-! ## A module of 64 bits -/

namespace Specimen

/-- The two headers, the second with 120 bytes of optional header and one directory. -/
def wideHeaders : Bytes :=
  padded 60 [0x4D, 0x5A] ++ Bytes.ofNat 4 0x40 ++
  Image.peSignature ++ Bytes.ofNat 2 0x8664 ++ padded 14 (Bytes.ofNat 2 1) ++
  Bytes.ofNat 4 120 ++ padded 108 (Bytes.ofNat 2 0x020B) ++ Bytes.ofNat 4 1 ++
  Bytes.ofNat 4 0x110 ++ Bytes.ofNat 4 0x50

/-- An image of 64-bit code. It exports a function that tests the eight bytes behind it. -/
def wide : Image.View :=
  let code : Bytes := [0xCC, 0x83, 0x3D, 8, 0, 0, 0, 0] ++ List.replicate 16 0xC3
  { base := 0x140000000
    bytes := padded 0x110 (wideHeaders ++ sectionEntry ".text" 0x160 code.length 0x60000020) ++
      exports "?launchUpdate@Block@@AAE_NI@Z" 0x161 ++ code }

end Specimen

namespace Symbol.Globals

instance (bits address : Nat) (bytes : Bytes) (tested : Nat) :
    Decidable (DecodesTest bits address bytes tested) :=
  decidable_of_iff
    (((Disassembler.ofBits bits).detail address bytes).toOption.any (fun whole =>
      whole.length = 7 ∧ whole.comparesMemoryWithZero = true ∧ whole.displacement = tested) = true)
    (by
      simp only [Option.any_eq_true, toOption_eq_some_iff, decide_eq_true_eq, DecodesTest]
      exact exists_congr fun whole => and_congr_right fun _ =>
        ⟨fun ⟨length, compares, place⟩ => ⟨length, compares, place⟩,
          fun tests => ⟨tests.length, tests.compares, tests.displacement⟩⟩)

/-- What is found in 64-bit code is not what is tested. -/
theorem wide_tests_elsewhere : ∃ owner code,
    (LoadedModule.load "host.exe" Specimen.wide {}).result = .ok owner ∧ owner.bits = 64 ∧
      code ∈ owner.segments ∧ code.bits = 64 ∧
      (code.onlyRawCompare 0x140000161 0x380).value = some 8 ∧
      Segment.ComparesOnlyAt (code.onward 0x140000161) 0x380 0 ∧
      DecodesTest 64 0x140000161 (code.onward 0x140000161) 0x140000170 ∧
      ¬DecodesTest 64 0x140000161 (code.onward 0x140000161) 8 ∧
      owner.Inside 0x140000170 ∧
      (resolve owner {}).result = .error (.of .globals (.outsideModule 8)) := by
  have computed : (LoadedModule.openInOrder? "host.exe" Specimen.wide {}).any (fun owner =>
      owner.bits = 64 ∧ owner.Inside 0x140000170 ∧
        (resolve owner {}).result = .error (.of .globals (.outsideModule 8)) ∧
        ∃ code ∈ owner.segments, code.bits = 64 ∧
          (code.onlyRawCompare 0x140000161 0x380).value = some 8 ∧
          Segment.ComparesAt (code.onward 0x140000161) 0x380 0 ∧
          DecodesTest 64 0x140000161 (code.onward 0x140000161) 0x140000170 ∧
          ¬DecodesTest 64 0x140000161 (code.onward 0x140000161) 8) = true := by decide +kernel
  obtain ⟨owner, opened, holds⟩ := (Option.any_eq_true _ _).mp computed
  obtain ⟨width, inside, ended, code, member, bits, found, here, tests, other⟩ :=
    of_decide_eq_true holds
  obtain ⟨_, place, only, _⟩ := Segment.onlyRawCompare_eq_some_iff.mp found
  obtain rfl := only.only 0 here
  exact ⟨owner, code, LoadedModule.load_of_openInOrder? opened, width, member, bits, found, only,
    tests, other, inside, ended⟩

end Symbol.Globals

end Landmark
