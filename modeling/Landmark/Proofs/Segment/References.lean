import Landmark.Proofs.Bytes
import Landmark.Proofs.Image.Reads
import Landmark.Proofs.Segment.Greedy

/-! # References

A pointer is written by its low bytes, so what is read at a place tells which bytes stand there.
The search for references looks for these bytes, in the part that the image defines, and what
it lists is read as the target.
-/

namespace Landmark.Segment

variable {segment : Segment} {address value target : Nat}

theorem offset?_eq_some_iff {offset : Nat} :
    segment.offset? address = some offset ↔
      segment.base ≤ address ∧ address < segment.stop ∧ offset = address - segment.base := by
  unfold offset?
  split
  next inside => simp [inside, eq_comm]
  next outside =>
    simp only [reduceCtorEq, false_iff]
    exact fun all => outside ⟨all.1, all.2.1⟩

theorem pointerSize_pos (segment : Segment) : 0 < segment.pointerSize := by
  unfold pointerSize Image.pointerSize
  split <;> decide

theorem readPointer?_eq_some_iff :
    segment.readPointer? address = some value ↔
      segment.base ≤ address ∧ address + segment.pointerSize ≤ segment.stop ∧
        value = segment.data.field segment.pointerSize (address - segment.base) := by
  have positive := segment.pointerSize_pos
  simp only [readPointer?, Option.bind_eq_some_iff, offset?_eq_some_iff, toOption_eq_some_iff,
    Image.readPointer, Image.readWord_eq_ok_iff]
  unfold stop size pointerSize at *
  constructor
  · rintro ⟨_, ⟨above, below, rfl⟩, fits, rfl⟩
    exact ⟨above, by omega, rfl⟩
  · rintro ⟨above, fits, rfl⟩
    exact ⟨_, ⟨above, by omega, rfl⟩, by omega, rfl⟩

theorem isSome_readPointer?_iff :
    (segment.readPointer? address).isSome ↔
      segment.base ≤ address ∧ address + segment.pointerSize ≤ segment.stop := by
  simp only [Option.isSome_iff_exists, readPointer?_eq_some_iff]
  constructor
  · rintro ⟨_, above, fits, _⟩
    exact ⟨above, fits⟩
  · rintro ⟨above, fits⟩
    exact ⟨_, above, fits, rfl⟩

/-! ## The bytes of a pointer -/

theorem length_pointerBytes (segment : Segment) (value : Nat) :
    (Image.pointerBytes segment.bits value).length = segment.pointerSize :=
  Bytes.length_ofNat _ _

theorem pointerBytes_ne_nil (segment : Segment) (value : Nat) :
    Image.pointerBytes segment.bits value ≠ [] := by
  apply List.ne_nil_of_length_pos
  rw [length_pointerBytes]
  exact segment.pointerSize_pos

theorem toNat_pointerBytes (segment : Segment) (value : Nat) :
    Bytes.toNat (Image.pointerBytes segment.bits value) =
      value % 2 ^ (8 * segment.pointerSize) := by
  rw [Image.pointerBytes, Bytes.toNat_ofNat, Nat.pow_mul]
  rfl

/-- A pointer is read exactly where its bytes stand. -/
theorem readPointer?_eq_some_mod_iff :
    segment.readPointer? address = some (value % 2 ^ (8 * segment.pointerSize)) ↔
      segment.base ≤ address ∧
        Image.pointerBytes segment.bits value <+: segment.data.drop (address - segment.base) := by
  rw [readPointer?_eq_some_iff, ← toNat_pointerBytes, List.prefix_iff_eq_take,
    length_pointerBytes]
  constructor
  · rintro ⟨above, fits, same⟩
    refine ⟨above, Bytes.eq_of_toNat_eq ?_ same⟩
    unfold stop size at fits
    rw [length_pointerBytes, List.length_take, List.length_drop]
    omega
  · rintro ⟨above, same⟩
    have length := congrArg List.length same
    rw [length_pointerBytes, List.length_take, List.length_drop] at length
    refine ⟨above, ?_, congrArg Bytes.toNat same⟩
    have positive := segment.pointerSize_pos
    unfold stop size
    omega

/-- A reference lies in the part that the image defines, and the target is read there. -/
def RefersTo (segment : Segment) (target address : Nat) : Prop :=
  address + segment.pointerSize ≤ segment.base + segment.defined ∧
    segment.readPointer? address = some (target % 2 ^ (8 * segment.pointerSize))

instance : Decidable (segment.RefersTo target address) := inferInstanceAs (Decidable (_ ∧ _))

theorem refersTo_iff :
    segment.RefersTo target address ↔
      segment.OccursAt (Image.pointerBytes segment.bits target) address := by
  rw [RefersTo, readPointer?_eq_some_mod_iff, occursAt_iff (pointerBytes_ne_nil segment target),
    length_pointerBytes, List.prefix_iff_eq_take, length_pointerBytes, eq_comm (b := List.take _ _)]
  tauto

/-- Pointers are read where they are written, and the search for references finds them. -/
structure PointersAgree (segment : Segment) : Prop where
  held : ∀ target, ∀ place ∈ segment.references target,
    segment.readPointer? place = some (target % 2 ^ (8 * segment.pointerSize))
  covered : ∀ target place, segment.RefersTo target place →
    ∃ hit ∈ segment.references target, hit ≤ place ∧ place < hit + segment.pointerSize
  all : ∀ target, (Image.pointerBytes segment.bits target).Unbordered →
    segment.references target =
      (List.range' segment.base segment.defined).filter fun place =>
        segment.RefersTo target place
  readable : ∀ place, (segment.readPointer? place).isSome ↔
    segment.base ≤ place ∧ place + segment.pointerSize ≤ segment.stop
  written : ∀ value place,
    segment.readPointer? place = some (value % 2 ^ (8 * segment.pointerSize)) ↔
      segment.base ≤ place ∧
        Image.pointerBytes segment.bits value <+: segment.data.drop (place - segment.base)
  /-- The machine comes to the same, where the end can be written down. -/
  machine : segment.stop < Checked.word →
    (∀ target, Checked.references segment target = .ok (segment.references target)) ∧
      ∀ place, Checked.readPointer? segment place = .ok (segment.readPointer? place)

/-- **The search for references agrees with the reading of pointers.** -/
theorem pointersAgree (segment : Segment) : PointersAgree segment := by
  have hits : ∀ target, segment.Hits (Image.pointerBytes segment.bits target)
      (segment.references target) := fun target => hits_find segment _
  constructor
  · intro target place member
    exact (refersTo_iff.mpr ((hits target).occurs place member)).2
  · intro target place refers
    have within := (hits target).covers place (refersTo_iff.mp refers)
    rwa [length_pointerBytes] at within
  · intro target unbordered
    simp only [refersTo_iff]
    exact find_eq_filter_of_unbordered unbordered
  · exact fun _ => isSome_readPointer?_iff
  · exact fun _ _ => readPointer?_eq_some_mod_iff
  · exact fun room => ⟨Checked.references_eq room, Checked.readPointer?_eq room⟩

end Landmark.Segment
