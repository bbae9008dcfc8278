import Landmark.Proofs.LoadedModule.Lookup
import Landmark.Segment.Entry
import Mathlib.Data.Nat.Basic
import Mathlib.Data.Set.Basic

/-! # Which entries are candidates

An entry is a candidate for a site strictly inside a segment when it is aligned, at most
a window in front of the last aligned address up to the site, and either the start of
the segment or behind a filler byte. With an alignment that is a power of two and a
window that is a multiple of it, the walk back finds the candidates and never fails.
-/

namespace Landmark

open Log

namespace EntryConvention

variable {convention : EntryConvention}

theorem isPowerOfTwo_iff {n : Nat} : isPowerOfTwo n = true ↔ n.isPowerOfTwo := by
  rw [← Nat.ne_zero_and_sub_one_eq_zero_iff_isPowerOfTwo]
  simp [isPowerOfTwo]

theorem positive_of_isPowerOfTwo (power : isPowerOfTwo convention.alignment = true) :
    0 < convention.alignment :=
  Nat.pos_of_isPowerOfTwo (isPowerOfTwo_iff.mp power)

theorem validate_of_isPowerOfTwo (power : isPowerOfTwo convention.alignment = true) :
    convention.validate = .ok () := by
  rw [validate, if_pos power]

theorem isPowerOfTwo_of_validate (valid : convention.validate = .ok ()) :
    isPowerOfTwo convention.alignment = true := by
  by_contra other
  rw [validate, if_neg other] at valid
  cases valid

/-- The bits that are dropped are the rest of the division. -/
theorem alignDown_eq (power : isPowerOfTwo convention.alignment = true) (address : Nat) :
    convention.alignDown address =
      address / convention.alignment * convention.alignment := by
  obtain ⟨exponent, same⟩ := isPowerOfTwo_iff.mp power
  rw [alignDown, same, Nat.and_two_pow_sub_one_eq_mod, Nat.div_mul_self_eq_mod_sub_self]

theorem mem_boundaries_iff (positive : 0 < convention.alignment) {top floor entry : Nat}
    (aligned : convention.alignment ∣ top) :
    entry ∈ convention.boundaries top floor ↔
      convention.alignment ∣ entry ∧ floor ≤ entry ∧ entry ≤ top := by
  unfold boundaries
  split
  next order =>
    rw [List.mem_map]
    constructor
    · rintro ⟨step, inRange, rfl⟩
      have few : step ≤ (top - floor) / convention.alignment :=
        Nat.lt_succ_iff.mp (List.mem_range.mp inRange)
      have short : step * convention.alignment ≤ top - floor :=
        (Nat.le_div_iff_mul_le positive).mp few
      exact ⟨Nat.dvd_sub aligned (Nat.dvd_mul_left _ _), by omega, Nat.sub_le _ _⟩
    · rintro ⟨divides, above, below⟩
      have even : convention.alignment ∣ top - entry := Nat.dvd_sub aligned divides
      refine ⟨(top - entry) / convention.alignment, ?_, ?_⟩
      · rw [List.mem_range, Nat.lt_succ_iff]
        apply Nat.div_le_div_right
        omega
      · rw [Nat.div_mul_cancel even]
        omega
  next order =>
    constructor
    · intro member
      cases member
    · rintro ⟨_, above, below⟩
      omega

end EntryConvention

namespace Segment

variable {segment : Segment} {convention : EntryConvention} {window site entry : Nat}

/-- A function that holds the site may start at the entry. -/
structure MayEnter (segment : Segment) (convention : EntryConvention) (window site entry : Nat) :
    Prop where
  inside : segment.base < site ∧ site < segment.stop
  aligned : convention.alignment ∣ entry
  above : segment.base ≤ entry
  below : entry ≤ site
  near : site / convention.alignment * convention.alignment ≤ entry + window
  marked : entry = segment.base ∨ segment.base < entry ∧
    (segment.data[entry - 1 - segment.base]?).map UInt8.toNat = some convention.padding

/-- The entries that the places which hold a pointer may belong to. -/
def Entries (segment : Segment) (convention : EntryConvention) (window target : Nat) : Set Nat :=
  { entry | ∃ site ∈ segment.references target, segment.MayEnter convention window site entry }

theorem mayStart_iff (above : segment.base ≤ entry) (below : entry ≤ segment.stop) :
    segment.mayStart convention entry = true ↔ entry = segment.base ∨ segment.base < entry ∧
      (segment.data[entry - 1 - segment.base]?).map UInt8.toNat = some convention.padding := by
  rw [mayStart, Bool.or_eq_true, beq_iff_eq, beq_iff_eq]
  rcases Nat.eq_or_lt_of_le above with first | later
  · rw [← first]
    simp only [true_or]
  · have positive : entry ≠ 0 := by omega
    have between : segment.base ≤ entry - 1 ∧ entry - 1 < segment.stop := by omega
    rw [byteBefore?, if_neg positive, offset?, if_pos between, Option.bind_some]
    simp only [later, true_and]

/-- The entries that the walk back from a site comes to. -/
def walked (segment : Segment) (convention : EntryConvention) (window site : Nat) : List Nat :=
  (convention.boundaries (convention.alignDown site)
    (max (convention.alignDown site - window) segment.base)).filter (segment.mayStart convention)

variable (power : EntryConvention.isPowerOfTwo convention.alignment = true)
include power

theorem entriesNear_eq (whole : window % convention.alignment = 0)
    (inside : segment.contains site = true) :
    segment.entriesNear convention window site = .ok (segment.walked convention window site) := by
  have bounds : segment.checkBounds site = .ok () := by rw [checkBounds, if_pos inside]
  have conventional := EntryConvention.validate_of_isPowerOfTwo power
  simp only [entriesNear, bounds, conventional, bind, Except.bind, whole, ne_eq, not_true_eq_false,
    if_false]
  rfl

theorem mem_walked (inside : segment.contains site = true) :
    entry ∈ segment.walked convention window site ↔
      convention.alignment ∣ entry ∧
        max (convention.alignDown site - window) segment.base ≤ entry ∧
        entry ≤ convention.alignDown site ∧
        (entry = segment.base ∨ segment.base < entry ∧
          (segment.data[entry - 1 - segment.base]?).map UInt8.toNat = some convention.padding) := by
  have positive := EntryConvention.positive_of_isPowerOfTwo power
  have top_le : convention.alignDown site ≤ site := Nat.sub_le _ _
  have below_stop := (contains_iff.mp inside).2
  have aligned : convention.alignment ∣ convention.alignDown site :=
    EntryConvention.alignDown_eq power site ▸ Nat.dvd_mul_left _ _
  rw [walked, List.mem_filter, EntryConvention.mem_boundaries_iff positive aligned, and_assoc,
    and_assoc]
  refine and_congr_right fun _ => and_congr_right fun floor => and_congr_right fun below => ?_
  exact mayStart_iff (by omega) (by omega)

theorem mem_walked_iff (inside : segment.contains site = true) :
    entry ∈ segment.walked convention window site ↔
      segment.MayEnter convention window site entry := by
  have within := contains_iff.mp inside
  have top_le : convention.alignDown site ≤ site := Nat.sub_le _ _
  have top := EntryConvention.alignDown_eq power site
  rw [mem_walked power inside]
  constructor
  · rintro ⟨divides, floor, below, marked⟩
    exact ⟨within, divides, by omega, by omega, by omega, marked⟩
  · intro enters
    have below : entry ≤ convention.alignDown site := by
      rw [top, ← Nat.div_mul_cancel enters.aligned]
      exact Nat.mul_le_mul_right _ (Nat.div_le_div_right enters.below)
    have near := enters.near
    have above := enters.above
    exact ⟨enters.aligned, by omega, below, enters.marked⟩

/-- What is asked of the sites together: the walks of all that lie strictly inside. -/
theorem entriesOf_eq (whole : window % convention.alignment = 0) (sites : List Nat) :
    segment.entriesOf convention window sites =
      .ok ((sites.filter segment.contains).flatMap
        (segment.walked convention window)).eraseDups := by
  have each : ∀ site ∈ sites.filter segment.contains,
      segment.entriesNear convention window site = .ok (segment.walked convention window site) :=
    fun site member => entriesNear_eq power whole (List.mem_filter.mp member).2
  rw [entriesOf, mapM_eq_ok_of_forall each, List.flatMap_def]
  rfl

theorem exists_entriesOf_eq (whole : window % convention.alignment = 0) (sites : List Nat) :
    ∃ entries, segment.entriesOf convention window sites = .ok entries ∧
      ∀ entry, entry ∈ entries ↔
        ∃ site ∈ sites, segment.MayEnter convention window site entry := by
  refine ⟨_, entriesOf_eq power whole sites, fun entry => ?_⟩
  simp only [List.mem_eraseDups, List.mem_flatMap, List.mem_filter]
  constructor
  · rintro ⟨site, ⟨member, inside⟩, walked⟩
    exact ⟨site, member, (mem_walked_iff power inside).mp walked⟩
  · rintro ⟨site, member, enters⟩
    have inside := contains_iff.mpr enters.inside
    exact ⟨site, ⟨member, inside⟩, (mem_walked_iff power inside).mpr enters⟩

theorem exists_entriesReferencing_eq (whole : window % convention.alignment = 0)
    (target : Nat) :
    ∃ entries, (segment.entriesReferencing convention window target).result = .ok entries ∧
      ∀ entry, entry ∈ entries ↔ entry ∈ segment.Entries convention window target := by
  obtain ⟨entries, found, listed⟩ :=
    @exists_entriesOf_eq segment _ _ power whole (segment.references target)
  refine ⟨entries, ?_, listed⟩
  simp only [entriesReferencing, entriesAround, Attempt.result_bind, Attempt.result_ofExcept,
    Attempt.result_emit, Attempt.result_pure, found]
  rfl

end Segment

end Landmark
