import Landmark.Proofs.Image.Reads
import Landmark.Proofs.Segment.Search

/-! # The one compare with zero

Of what looks like a compare with zero only the opcode has to lie in the window that is scanned.
The rest may reach behind it, and may hold an opcode of its own, but it does not reach behind the
segment. The scan has an answer when there is one such place, and the answer is what stands there.
-/

namespace Landmark.Segment

open Log

/-- The list of what is found along a row has one element when something is found in one place. -/
theorem only?_filterMap_eq_some_iff {α β : Type} {row : List α} (distinct : row.Nodup)
    {read : α → Option β} {value : β} :
    only? (row.filterMap read) = some value ↔
      ∃ a ∈ row, read a = some value ∧ ∀ b ∈ row, (read b).isSome → b = a := by
  have single : only? (row.filterMap read) = some value ↔ row.filterMap read = [value] := by
    unfold only?
    split <;> simp_all
  rw [single, List.filterMap_eq_cons_iff]
  constructor
  · rintro ⟨front, a, behind, rfl, before, here, after⟩
    refine ⟨a, by simp, here, fun b member found => ?_⟩
    rcases List.mem_append.mp member with inFront | inBehind
    · rw [before b inFront] at found
      cases found
    · cases List.mem_cons.mp inBehind with
      | inl same => exact same
      | inr later =>
        rw [List.filterMap_eq_nil_iff.mp after b later] at found
        cases found
  · rintro ⟨a, member, here, only⟩
    obtain ⟨front, behind, rfl⟩ := List.append_of_mem member
    have absent : ∀ b ∈ front ++ behind, read b = none := by
      intro b other
      rw [← Option.not_isSome_iff_eq_none]
      intro found
      have member : b ∈ front ++ a :: behind := List.perm_middle.mem_iff.mpr (.tail a other)
      have absent := (List.nodup_cons.mp (List.perm_middle.nodup_iff.mp distinct)).1
      exact absent (only b member found ▸ other)
    refine ⟨front, a, behind, rfl, fun b inFront => absent b (List.mem_append_left _ inFront), here,
      List.filterMap_eq_nil_iff.mpr fun b inBehind => absent b (List.mem_append_right _ inBehind)⟩

variable {segment : Segment} {bytes : Bytes} {start window place operand : Nat}

/-- What looks like a compare with zero stands at a place: its opcode in the window, all of it in
the bytes. -/
structure ComparesAt (bytes : Bytes) (window place : Nat) : Prop where
  opens : place + 2 ≤ min window bytes.length
  fits : place + 7 ≤ bytes.length
  opcode : bytes[place]? = some 0x83
  mode : bytes[place + 1]? = some 0x3D
  zero : bytes[place + 6]? = some 0

/-- It stands there and nowhere else. -/
structure ComparesOnlyAt (bytes : Bytes) (window place : Nat) : Prop where
  here : ComparesAt bytes window place
  only : ∀ other, ComparesAt bytes window other → other = place

theorem comparedAt_eq_some_iff :
    comparedAt bytes = some operand ↔ bytes[0]? = some 0x83 ∧ bytes[1]? = some 0x3D ∧
      bytes[6]? = some 0 ∧ operand = bytes.field 4 2 := by
  unfold comparedAt
  split
  next a b c d rest => simp [Bytes.field, eq_comm]
  next other =>
    refine ⟨(nomatch ·), ?_⟩
    rintro ⟨opcode, mode, zero, _⟩
    match bytes with
    | [] => cases opcode
    | [_] => cases mode
    | [_, _] | [_, _, _] | [_, _, _, _] | [_, _, _, _, _] | [_, _, _, _, _, _] => cases zero
    | _ :: _ :: a :: b :: c :: d :: _ :: rest =>
      cases opcode
      cases mode
      cases zero
      exact absurd rfl (other a b c d rest)

theorem comparedAt_drop_eq_some_iff (inside : place < min (window - 1) bytes.length) :
    comparedAt (bytes.drop place) = some operand ↔
      ComparesAt bytes window place ∧ operand = bytes.field 4 (place + 2) := by
  rw [comparedAt_eq_some_iff]
  simp only [List.getElem?_drop, Bytes.field, List.drop_drop, Nat.add_zero]
  constructor
  · rintro ⟨opcode, mode, zero, same⟩
    have last := (List.getElem?_eq_some_iff.mp zero).1
    exact ⟨⟨by omega, by omega, opcode, mode, zero⟩, same⟩
  · rintro ⟨compares, same⟩
    exact ⟨compares.opcode, compares.mode, compares.zero, same⟩

theorem only?_rawCompares_eq_some_iff :
    only? (rawCompares bytes window) = some operand ↔
      ∃ place, ComparesOnlyAt bytes window place ∧ operand = bytes.field 4 (place + 2) := by
  have scanned : ∀ {place}, ComparesAt bytes window place →
      place < min (window - 1) bytes.length := by
    intro place compares
    have opens := compares.opens
    omega
  rw [rawCompares, scan_eq, only?_filterMap_eq_some_iff List.nodup_range]
  simp only [List.mem_range, Option.isSome_iff_exists]
  constructor
  · rintro ⟨place, inside, found, only⟩
    obtain ⟨here, same⟩ := (comparedAt_drop_eq_some_iff inside).mp found
    refine ⟨place, ⟨here, fun other again => ?_⟩, same⟩
    exact only other (scanned again)
      ⟨_, (comparedAt_drop_eq_some_iff (scanned again)).mpr ⟨again, rfl⟩⟩
  · rintro ⟨place, ⟨here, only⟩, same⟩
    refine ⟨place, scanned here, (comparedAt_drop_eq_some_iff (scanned here)).mpr ⟨here, same⟩, ?_⟩
    rintro other inside ⟨_, found⟩
    exact only other ((comparedAt_drop_eq_some_iff inside).mp found).1

/-- A compare that holds another one's opcode; with both opcodes in the window there are two. -/
example : only? (rawCompares [0x83, 0x3D, 0x83, 0x3D, 0, 0, 0, 0, 0] 3) = some 0x3D83 ∧
    only? (rawCompares [0x83, 0x3D, 0x83, 0x3D, 0, 0, 0, 0, 0] 4) = none := by decide

/-- The bytes from an address of the segment on. -/
def onward (segment : Segment) (start : Nat) : Bytes := segment.data.drop (start - segment.base)

/-- The only compare with zero behind an address is that of the operand. -/
def ComparesOnly (segment : Segment) (start window operand : Nat) : Prop :=
  ∃ place, ComparesOnlyAt (segment.onward start) window place ∧
    operand = (segment.onward start).field 4 (place + 2)

theorem value_onlyRawCompare (segment : Segment) (start window : Nat) :
    (segment.onlyRawCompare start window).value =
      if segment.base ≤ start ∧ start < segment.stop then
        only? (rawCompares (segment.onward start) window)
      else none := by
  unfold onlyRawCompare bytesFrom? offset? onward
  by_cases inside : segment.base ≤ start ∧ start < segment.stop
  · rw [if_pos inside, if_pos inside, Option.map_some]
    dsimp only
    split <;> rfl
  · rw [if_neg inside, if_neg inside]
    rfl

/-- The scan names what is compared in the one place there is. -/
theorem onlyRawCompare_eq_some_iff :
    (segment.onlyRawCompare start window).value = some operand ↔
      (segment.base ≤ start ∧ start < segment.stop) ∧
        segment.ComparesOnly start window operand := by
  rw [value_onlyRawCompare]
  split
  next inside => exact only?_rawCompares_eq_some_iff.trans (and_iff_right inside).symm
  next outside => exact ⟨(nomatch ·), fun both => absurd both.1 outside⟩

end Landmark.Segment
