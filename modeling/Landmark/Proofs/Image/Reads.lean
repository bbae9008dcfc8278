import Landmark.Image.Read
import Landmark.Proofs.Bytes
import Landmark.Proofs.Log.Attempt

/-! # What reads come to

A word that lies in the image is read as the number its bytes write; one that does not is
refused at its offset. A table is read entry by entry, and the first entry that cannot be
read decides.
-/

namespace Landmark

/-- The number written by the `count` bytes from `offset` on. -/
def Bytes.field (bytes : Bytes) (count offset : Nat) : Nat :=
  toNat ((bytes.drop offset).take count)

theorem Bytes.field_lt (bytes : Bytes) (count offset : Nat) :
    bytes.field count offset < 256 ^ count := by
  have few : ((bytes.drop offset).take count).length ≤ count := List.length_take_le _ _
  exact Nat.lt_of_lt_of_le (toNat_lt _) (Nat.pow_le_pow_right (by decide) few)

namespace Image

variable {bytes : Bytes} {count offset : Nat}

theorem readWord_of_fits (fits : offset + count ≤ bytes.length) :
    readWord bytes count offset = .ok (bytes.field count offset) := by
  unfold readWord Bytes.word?
  rw [Bytes.slice?_eq_some_iff.mpr ⟨fits, rfl⟩]
  rfl

theorem readWord_of_past (past : bytes.length < offset + count) :
    readWord bytes count offset = .error (.pastEnd offset) := by
  unfold readWord Bytes.word? Bytes.slice?
  rw [if_neg (by omega)]
  rfl

theorem readWord_eq_ok_iff {value : Nat} :
    readWord bytes count offset = .ok value ↔
      offset + count ≤ bytes.length ∧ value = bytes.field count offset := by
  by_cases fits : offset + count ≤ bytes.length
  · rw [readWord_of_fits fits, Except.ok.injEq]
    exact ⟨fun same => ⟨fits, same.symm⟩, fun both => both.2.symm⟩
  · rw [readWord_of_past (Nat.lt_of_not_le fits)]
    exact ⟨(nomatch ·), fun both => absurd both.1 fits⟩

section Rows

variable {α : Type} {read : Nat → Except Fault α} {value : Nat → α} {first : Nat}

theorem readRow_of_forall
    (all : ∀ place, first ≤ place → place < first + count → read place = .ok (value place)) :
    readRow read count first = .ok ((List.range' first count).map value) := by
  induction count generalizing first with
  | zero => rfl
  | succ count ih =>
    rw [readRow, all first (Nat.le_refl _) (by omega), ok_bind,
      ih fun place above below => all place (by omega) (by omega)]
    rfl

/-- A table is read as a row when each of its entries is. -/
theorem readRow_of_getElem {row : List α}
    (each : ∀ place (inside : place < row.length), read (first + place) = .ok row[place]) :
    readRow read row.length first = .ok row := by
  induction row generalizing first with
  | nil => rfl
  | cons head rest ih =>
    have here : read first = .ok head := each 0 (Nat.succ_pos _)
    have later : readRow read rest.length (first + 1) = .ok rest :=
      ih fun place inside => by
        rw [Nat.add_assoc, Nat.add_comm 1]
        exact each (place + 1) (Nat.succ_lt_succ inside)
    rw [List.length_cons, readRow, here, ok_bind, later]
    rfl

theorem readRow_of_error {place : Nat} {fault : Fault} (inside : first ≤ place)
    (below : place < first + count)
    (front : ∀ other, first ≤ other → other < place → read other = .ok (value other))
    (failed : read place = .error fault) : readRow read count first = .error fault := by
  induction count generalizing first with
  | zero => omega
  | succ count ih =>
    rw [readRow]
    by_cases here : place = first
    · subst here
      rw [failed]
      rfl
    · rw [front first (Nat.le_refl _) (by omega), ok_bind,
        ih (by omega) (by omega) fun other above less => front other (by omega) less]
      rfl

/-- A table is read when each of its entries can be, and then entry by entry. -/
theorem readRow_eq_ok_iff {readable : Nat → Prop} {row : List α}
    (each : ∀ place entry, read place = .ok entry ↔ readable place ∧ entry = value place) :
    readRow read count first = .ok row ↔
      (∀ place, first ≤ place → place < first + count → readable place) ∧
        row = (List.range' first count).map value := by
  induction count generalizing first row with
  | zero =>
    rw [readRow, Except.ok.injEq]
    exact ⟨fun same => ⟨fun place above below => by omega, same.symm⟩, fun both => both.2.symm⟩
  | succ count ih =>
    simp only [readRow, bind_eq_ok, each, ih, List.range'_succ, List.map_cons]
    constructor
    · rintro ⟨_, ⟨here, rfl⟩, _, ⟨later, rfl⟩, same⟩
      refine ⟨fun place above below => ?_, (Except.ok.inj same).symm⟩
      rcases Nat.eq_or_lt_of_le above with rfl | behind
      · exact here
      · exact later place behind (by omega)
    · rintro ⟨all, rfl⟩
      exact ⟨_, ⟨all first (Nat.le_refl _) (by omega), rfl⟩, _,
        ⟨fun place above below => all place (by omega) (by omega), rfl⟩, rfl⟩

end Rows

end Image

end Landmark
