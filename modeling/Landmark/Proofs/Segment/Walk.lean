import Landmark.Proofs.Checked.Entry
import Mathlib.Order.Bounds.Basic

/-! # Walking back to entries, exactly

A walk back starts at the last aligned address up to the one that is asked for, and goes on until
a window is behind it or the segment begins. It lists the candidates on its way, the nearest first,
so a walk through a smaller window lists the first of them. No walk starts from outside, nor with
an alignment that is no power of two, nor through a window that is no multiple of it.
-/

namespace Landmark

namespace EntryConvention

variable {convention : EntryConvention}

theorem boundaries_descend (positive : 0 < convention.alignment) (top floor : Nat) :
    (convention.boundaries top floor).Pairwise (· > ·) := by
  unfold boundaries
  split
  next order =>
    refine List.pairwise_map.mpr (List.pairwise_lt_range.imp_of_mem ?_)
    intro near far _ member further
    have steps : far ≤ (top - floor) / convention.alignment :=
      Nat.lt_succ_iff.mp (List.mem_range.mp member)
    -- Nothing is cut off at zero, so what is taken off decides the order.
    have within : far * convention.alignment ≤ top - floor :=
      (Nat.le_div_iff_mul_le positive).mp steps
    have apart : near * convention.alignment < far * convention.alignment :=
      Nat.mul_lt_mul_of_pos_right further positive
    omega
  next => exact .nil

theorem boundaries_prefix {top floor higher : Nat} (raised : floor ≤ higher) :
    convention.boundaries top higher <+: convention.boundaries top floor := by
  unfold boundaries
  split
  next order =>
    rw [if_pos (Nat.le_trans raised order)]
    apply List.IsPrefix.map
    have fewer : (top - higher) / convention.alignment + 1 ≤
        (top - floor) / convention.alignment + 1 :=
      Nat.succ_le_succ (Nat.div_le_div_right (Nat.sub_le_sub_left raised top))
    rw [← Nat.min_eq_left fewer, ← List.take_range]
    exact List.take_prefix _ _
  next => exact List.nil_prefix

theorem isGreatest_alignDown (power : isPowerOfTwo convention.alignment = true) (address : Nat) :
    IsGreatest { boundary | convention.alignment ∣ boundary ∧ boundary ≤ address }
      (convention.alignDown address) := by
  rw [alignDown_eq power]
  refine ⟨⟨Nat.dvd_mul_left _ _, Nat.div_mul_le_self _ _⟩, ?_⟩
  rintro boundary ⟨aligned, below⟩
  rw [← Nat.div_mul_cancel aligned]
  exact Nat.mul_le_mul_right _ (Nat.div_le_div_right below)

end EntryConvention

namespace Segment

variable {segment : Segment} {convention : EntryConvention} {window near : Nat} {fault : Fatal}

/-- Why no walk starts: the first of three faults. -/
inductive Refuses (segment : Segment) (convention : EntryConvention) (window near : Nat) :
    Fatal → Prop where
  | outside (outside : ¬(segment.base < near ∧ near < segment.stop)) :
    Refuses segment convention window near
      (.addressOutOfBounds ("segment " ++ segment.name) near)
  | misaligned (inside : segment.base < near ∧ near < segment.stop)
    (other : ¬convention.alignment.isPowerOfTwo) :
    Refuses segment convention window near (.invalidConfig (.alignment convention.alignment))
  | uneven (inside : segment.base < near ∧ near < segment.stop)
    (power : convention.alignment.isPowerOfTwo) (part : ¬convention.alignment ∣ window) :
    Refuses segment convention window near (.invalidConfig (.window window convention.alignment))

/-- A walk starts. -/
structure Starts (segment : Segment) (convention : EntryConvention) (window near : Nat) : Prop where
  inside : segment.base < near ∧ near < segment.stop
  power : convention.alignment.isPowerOfTwo
  whole : convention.alignment ∣ window

/-- What a walk from `top` lists. -/
structure WalksFrom (segment : Segment) (convention : EntryConvention) (window top : Nat)
    (entries : List Nat) : Prop where
  descending : entries.Pairwise (· > ·)
  exactly : ∀ entry, entry ∈ entries ↔
    convention.alignment ∣ entry ∧ max (top - window) segment.base ≤ entry ∧ entry ≤ top ∧
      (entry = segment.base ∨ segment.base < entry ∧
        (segment.data[entry - 1 - segment.base]?).map UInt8.toNat = some convention.padding)

/-- A walk starts or is refused, lists what it comes by, and ends. -/
structure WalksBack (segment : Segment) (convention : EntryConvention) : Prop where
  refuses : ∀ window near fault,
    segment.entriesNear convention window near = .error fault ↔
      Refuses segment convention window near fault
  lists : ∀ window near, Starts segment convention window near →
    ∃ top entries,
      IsGreatest { boundary | convention.alignment ∣ boundary ∧ boundary ≤ near } top ∧
        segment.entriesNear convention window near = .ok entries ∧
        WalksFrom segment convention window top entries
  begins : ∀ smaller window near few entries, smaller ≤ window →
    segment.entriesNear convention smaller near = .ok few →
    segment.entriesNear convention window near = .ok entries → few <+: entries
  /-- Taking one alignment off at a time neither goes below zero nor on for ever. -/
  machine : segment.stop < Checked.word → ∀ window near,
    (Checked.entriesNear segment convention window near).run =
      .ok (segment.entriesNear convention window near)

/-! ## Walks that start -/

theorem Starts.contains (starts : Starts segment convention window near) :
    segment.contains near = true := contains_iff.mpr starts.inside

theorem Starts.isPowerOfTwo (starts : Starts segment convention window near) :
    EntryConvention.isPowerOfTwo convention.alignment = true :=
  EntryConvention.isPowerOfTwo_iff.mpr starts.power

theorem Starts.mod_eq_zero (starts : Starts segment convention window near) :
    window % convention.alignment = 0 := Nat.mod_eq_zero_of_dvd starts.whole

theorem Starts.entriesNear_eq (starts : Starts segment convention window near) :
    segment.entriesNear convention window near = .ok (segment.walked convention window near) :=
  Segment.entriesNear_eq starts.isPowerOfTwo starts.mod_eq_zero starts.contains

theorem Starts.walksFrom (starts : Starts segment convention window near) :
    WalksFrom segment convention window (convention.alignDown near)
      (segment.walked convention window near) := by
  have positive := EntryConvention.positive_of_isPowerOfTwo starts.isPowerOfTwo
  constructor
  · exact (EntryConvention.boundaries_descend positive _ _).filter _
  · exact fun entry => mem_walked starts.isPowerOfTwo starts.contains

/-! ## Walks that do not -/

theorem Refuses.entriesNear_eq (refuses : Refuses segment convention window near fault) :
    segment.entriesNear convention window near = .error fault := by
  cases refuses with
  | outside outside =>
    have apart : ¬segment.contains near = true := mt contains_iff.mp outside
    rw [entriesNear, checkBounds, if_neg apart]
    rfl
  | misaligned inside other =>
    have odd : ¬EntryConvention.isPowerOfTwo convention.alignment = true :=
      mt EntryConvention.isPowerOfTwo_iff.mp other
    rw [entriesNear, checkBounds, if_pos (contains_iff.mpr inside), EntryConvention.validate,
      if_neg odd]
    rfl
  | uneven inside power part =>
    have conventional := EntryConvention.validate_of_isPowerOfTwo
      (EntryConvention.isPowerOfTwo_iff.mpr power)
    have rest : window % convention.alignment ≠ 0 := mt Nat.dvd_of_mod_eq_zero part
    rw [entriesNear, checkBounds, if_pos (contains_iff.mpr inside), conventional]
    simp only [bind, Except.bind, if_pos rest]
    rfl

theorem starts_or_refuses (segment : Segment) (convention : EntryConvention) (window near : Nat) :
    Starts segment convention window near ∨
      ∃ fault, Refuses segment convention window near fault := by
  by_cases inside : segment.base < near ∧ near < segment.stop
  · by_cases power : convention.alignment.isPowerOfTwo
    · by_cases whole : convention.alignment ∣ window
      · exact .inl ⟨inside, power, whole⟩
      · exact .inr ⟨_, .uneven inside power whole⟩
    · exact .inr ⟨_, .misaligned inside power⟩
  · exact .inr ⟨_, .outside inside⟩

theorem entriesNear_eq_error_iff :
    segment.entriesNear convention window near = .error fault ↔
      Refuses segment convention window near fault := by
  refine ⟨fun failed => ?_, Refuses.entriesNear_eq⟩
  rcases starts_or_refuses segment convention window near with starts | ⟨cause, refuses⟩
  · cases starts.entriesNear_eq.symm.trans failed
  · obtain rfl := Except.error.inj (refuses.entriesNear_eq.symm.trans failed)
    exact refuses

theorem starts_of_entriesNear {entries : List Nat}
    (found : segment.entriesNear convention window near = .ok entries) :
    Starts segment convention window near ∧ entries = segment.walked convention window near := by
  rcases starts_or_refuses segment convention window near with starts | ⟨fault, refuses⟩
  · exact ⟨starts, Except.ok.inj (found.symm.trans starts.entriesNear_eq)⟩
  · cases refuses.entriesNear_eq.symm.trans found

theorem Refuses.checked_eq (refuses : Refuses segment convention window near fault) :
    Checked.entriesNear segment convention window near = throw fault := by
  cases refuses with
  | outside outside =>
    have apart : segment.contains near = false := eq_false_of_ne_true (mt contains_iff.mp outside)
    rw [Checked.entriesNear, Checked.checkBounds, Checked.contains_eq, apart]
    rfl
  | misaligned inside other =>
    have odd : ¬EntryConvention.isPowerOfTwo convention.alignment = true :=
      mt EntryConvention.isPowerOfTwo_iff.mp other
    rw [Checked.entriesNear, Checked.checkBounds_of_contains (contains_iff.mpr inside),
      EntryConvention.validate, if_neg odd]
    rfl
  | uneven inside power part =>
    have conventional := EntryConvention.isPowerOfTwo_iff.mpr power
    have positive := EntryConvention.positive_of_isPowerOfTwo conventional
    have rest : window % convention.alignment ≠ 0 := mt Nat.dvd_of_mod_eq_zero part
    rw [Checked.entriesNear, Checked.checkBounds_of_contains (contains_iff.mpr inside),
      EntryConvention.validate_of_isPowerOfTwo conventional,
      Checked.rem_eq (Nat.ne_of_gt positive)]
    change (if window % convention.alignment ≠ 0 then _ else _) = _
    rw [if_pos rest]
    rfl

/-- **Walking back from an address lists the candidates in its window, the nearest first.** -/
theorem walksBack (segment : Segment) (convention : EntryConvention) :
    segment.WalksBack convention := by
  constructor
  · exact fun window near fault => entriesNear_eq_error_iff
  · intro window near starts
    exact ⟨_, _, EntryConvention.isGreatest_alignDown starts.isPowerOfTwo near,
      starts.entriesNear_eq, starts.walksFrom⟩
  · intro smaller window near few entries narrower found all
    obtain ⟨_, rfl⟩ := starts_of_entriesNear found
    obtain ⟨_, rfl⟩ := starts_of_entriesNear all
    have floor : max (convention.alignDown near - window) segment.base ≤
        max (convention.alignDown near - smaller) segment.base := by omega
    exact (EntryConvention.boundaries_prefix floor).filter _
  · intro room window near
    rcases starts_or_refuses segment convention window near with starts | ⟨fault, refuses⟩
    · rw [starts.entriesNear_eq,
        Checked.entriesNear_eq room starts.isPowerOfTwo starts.mod_eq_zero starts.contains]
      rfl
    · rw [refuses.entriesNear_eq, refuses.checked_eq]
      rfl

/-- A walk that comes to address zero, with more of its window left. -/
example : entriesNear { name := ".text", base := 0, data := List.replicate 16 0xCC ++ [0xC3, 0xC3] }
    { alignment := 16, padding := 0xCC } 32 17 = .ok [16, 0] := by rfl

end Segment

end Landmark
