import Landmark.Proofs.Segment.Calls
import Landmark.Proofs.X86.Readings

/-! # Branches as they are encoded

A branch is encoded by its distance, cut to 32 bits. In 32-bit code the sum with the next address
is cut to 32 bits as well, so the branch leads to its target however far that is. In 64-bit code the
distance is widened with its sign, and so it is in a scan for calls: there the branch leads to its
target just when the whole distance is a number of 32 bits with a sign.
-/

namespace Landmark.X86

/-- How far a target is from the next instruction: the difference of two addresses of 64 bits, as
a number with a sign. -/
def gap (next target : Nat) : Int := Int.bmod (target - next) 0x10000000000000000

/-- A gap is a number of 32 bits with a sign. -/
def Near (next target : Nat) : Prop := -0x80000000 ≤ gap next target ∧ gap next target < 0x80000000

/-- Only a difference of half the addresses or more goes around their end. -/
theorem gap_eq {next target : Nat} (above : -0x8000000000000000 ≤ (target : Int) - next)
    (below : (target : Int) - next < 0x8000000000000000) : gap next target = target - next := by
  unfold gap
  rw [Int.bmod_def]
  split <;> omega

namespace Encode

variable {address length target : Nat}

/-- The distance leads to the target by 64 bits just when nothing of it was cut off. -/
theorem landing_distance_iff (low : target < 2 ^ 64) :
    landing (address + length) (Bytes.toNat (distance address length target)) = target ↔
      Near (address + length) target := by
  rw [toNat_distance]
  generalize address + length = next
  unfold landing Near gap Width.span
  dsimp only
  rw [Int.bmod_def, Int.bmod_def]
  split <;> split <;> omega

end Encode

namespace Branch

variable [Decoder]

/-- What becomes of a branch that is encoded. -/
structure Recovered (branch : Branch) (address target : Nat) : Prop where
  length : (branch.encode address target).length = branch.size
  narrow : address + 6 < 2 ^ 32 → target < 2 ^ 32 → ∀ rest,
    branch.Decodes 32 address (branch.encode address target ++ rest) target
  wide : address + 6 < 2 ^ 64 → target < 2 ^ 64 →
    -0x80000000 ≤ (target : Int) - (address + branch.size : Nat) →
    (target : Int) - (address + branch.size : Nat) < 0x80000000 → ∀ rest,
    branch.Decodes 64 address (branch.encode address target ++ rest) target

theorem Reads.decodes_encode {branch : Branch} (reads : branch.Reads) {bits : Nat} {mode : Mode}
    (known : Mode.ofBits? bits = some mode) (large : mode ≠ .bits16) {address : Nat}
    (low : address < 2 ^ 64) (target : Nat) (rest : Bytes) :
    branch.Decodes bits address (branch.encode address target ++ rest)
      (landing (address + branch.size)
        (Bytes.toNat (Encode.distance address branch.size target)) % mode.nativeWidth.span) := by
  obtain ⟨whole, decoded, leads⟩ := reads.exists_encode large low target rest
  exact decodes_of_leads (Decoder.detail_eq_ok known decoded) leads

theorem Reads.recovered {branch : Branch} (reads : branch.Reads) (address target : Nat) :
    branch.Recovered address target := by
  constructor
  case length => cases branch <;> rfl
  case narrow =>
    intro inside low rest
    have decodes := @Reads.decodes_encode _ _ reads 32 _ rfl nofun address (by omega) target rest
    rwa [show Mode.bits32.nativeWidth.span = 0x100000000 from rfl,
      Encode.landing_distance_mod low] at decodes
  case wide =>
    intro inside low above below rest
    have near : Near (address + branch.size) target := by
      rw [Near, gap_eq (by omega) (by omega)]
      exact ⟨above, below⟩
    have decodes := @Reads.decodes_encode _ _ reads 64 _ rfl nofun address (by omega) target rest
    rwa [landing_mod_wide, (Encode.landing_distance_iff low).mpr near] at decodes

end Branch

/-- A call that is encoded in a segment, and what a scan for calls makes of its first byte. -/
structure Scanned (segment : Segment) (address target : Nat) : Prop where
  listed : (segment.rawCalls address 1).value.head? = some target ↔ Near (address + 5) target
  /-- The same without the end of the addresses in between. -/
  plain : -0x8000000000000000 ≤ (target : Int) - (address + 5 : Nat) →
    (target : Int) - (address + 5 : Nat) < 0x8000000000000000 →
    ((segment.rawCalls address 1).value.head? = some target ↔
      -0x80000000 ≤ (target : Int) - (address + 5 : Nat) ∧
        (target : Int) - (address + 5 : Nat) < 0x80000000)

theorem rawCalls_call {segment : Segment} {address target : Nat} (above : segment.base ≤ address)
    (holds : Encode.call address target <+: segment.data.drop (address - segment.base)) :
    (segment.rawCalls address 1).value =
      [landing (address + 5) (Bytes.toNat (Encode.distance address 5 target))] := by
  have long := holds.length_le
  obtain ⟨rest, split⟩ := holds
  have five : (Encode.call address target).length = 5 := rfl
  rw [five, List.length_drop] at long
  have inside : segment.base ≤ address ∧ address < segment.stop := by
    unfold Segment.stop Segment.size
    omega
  have small := Bytes.toNat_lt (Encode.distance address 5 target)
  rw [Encode.length_distance] at small
  rw [Segment.value_rawCalls, if_pos inside, Segment.onward, ← split]
  change Segment.scan Segment.callAt (0xE8 :: (Encode.distance address 5 target ++ rest)) (0 + 1)
    address = _
  rw [Segment.scan_call (Encode.length_distance _ _ _), Segment.scan_eq, Nat.zero_min,
    List.range_zero, List.filterMap_nil, landing_eq small]
  rfl

theorem scanned {segment : Segment} {address target : Nat} (low : target < 2 ^ 64)
    (above : segment.base ≤ address)
    (holds : Encode.call address target <+: segment.data.drop (address - segment.base)) :
    Scanned segment address target := by
  have listed : (segment.rawCalls address 1).value.head? = some target ↔
      Near (address + 5) target := by
    rw [rawCalls_call above holds, List.head?_singleton, Option.some_inj,
      Encode.landing_distance_iff low]
  constructor
  case listed => exact listed
  case plain =>
    intro least most
    rw [listed, Near, gap_eq least most]

/-- **What is encoded is decoded**, by every decoder that reads the branches as they are documented;
and a scan for calls finds the target of a call just when the distance was not cut. -/
theorem branches_recovered [Decoder] (address target : Nat) :
    (∀ branch : Branch, branch.Reads → branch.Recovered address target) ∧
    ∀ segment : Segment, target < 2 ^ 64 → segment.base ≤ address →
      Encode.call address target <+: segment.data.drop (address - segment.base) →
      Scanned segment address target :=
  ⟨fun _ reads => reads.recovered address target, fun _ low above holds => scanned low above holds⟩

/-- A call at the end of the 32-bit addresses of a place at their start, alone in a segment. -/
def farCall : Segment where
  name := ".text"
  base := 0xFFFFFFF0
  data := Encode.call 0xFFFFFFF0 0x10

/-- In 32-bit code it leads there, but a scan makes another place of it. -/
theorem farCall_recovered :
    Branch.call.Reads ∧ Branch.call.Decodes 32 0xFFFFFFF0 (farCall.data ++ []) 0x10 ∧
      farCall.base ≤ 0xFFFFFFF0 ∧
      Encode.call 0xFFFFFFF0 0x10 <+: farCall.data.drop (0xFFFFFFF0 - farCall.base) ∧
      (farCall.rawCalls 0xFFFFFFF0 1).value.head? ≠ some 0x10 := by
  obtain ⟨recovered, scans⟩ := branches_recovered 0xFFFFFFF0 0x10
  have holds : Encode.call 0xFFFFFFF0 0x10 <+: farCall.data.drop (0xFFFFFFF0 - farCall.base) :=
    List.prefix_refl _
  have scanned := scans farCall (by decide) (Nat.le_refl _) holds
  have reads := Branch.reads .call
  refine ⟨reads, (recovered .call reads).narrow (by decide) (by decide) [], Nat.le_refl _, holds,
    ?_⟩
  intro listed
  exact absurd ((scanned.plain (by decide) (by decide)).mp listed).1 (by decide)

end Landmark.X86
