import Landmark.Proofs.Image.Locality

/-! # Images with the section table in another order

When only the entries of the section table change places, every other header is read as before, and
the sections are the same ones in the new order. What else may change is what is read from the bytes
of the table itself: the directory of exports, where the optional header is too short for it, and
exports that stand there.
-/

namespace Landmark.Image

/-- The entries of a table at an offset, each as its bytes. -/
def entriesAt (bytes : Bytes) (table count : Nat) : List Bytes :=
  (List.range count).map fun number => (bytes.drop (table + number * 40)).take 40

namespace Headers

/-- The places of the section table. -/
def tablePlaces (headers : Headers) : Set Nat :=
  Set.Ico headers.sectionTable (headers.sectionTable + 40 * headers.file.sectionCount)

/-- The places of the directory of exports, if one is declared. -/
def exportSlotPlaces (headers : Headers) (start : Nat) : Set Nat :=
  { place | 0 < headers.declared ∧
    place ∈ Set.Ico (headers.directoriesFrom start) (headers.directoriesFrom start + 8) }

end Headers

/-- Two images that are the same but for the order of the section table, which stands where the
headers of the first say. -/
structure Reordered (view other : View) (headers : Headers) : Prop where
  base : view.base = other.base
  elsewhere : view.bytes.AgreeOn other.bytes { place | place ∉ headers.tablePlaces }
  entries : (entriesAt view.bytes headers.sectionTable headers.file.sectionCount).Perm
    (entriesAt other.bytes headers.sectionTable headers.file.sectionCount)

variable {bytes left right : Bytes} {offset count first start : Nat} {dos : DosHeader}
  {view other : View} {outline : Outline}

/-- A field of an entry is a field of the image. -/
theorem field_window {width : Nat} (inside : first + width ≤ count) :
    Bytes.field ((bytes.drop offset).take count) width first =
      bytes.field width (offset + first) := by
  unfold Bytes.field
  rw [List.drop_take, List.take_take, List.drop_drop, Nat.min_eq_left (by omega)]

theorem sectionHeaderAt_window (bytes : Bytes) (offset : Nat) :
    sectionHeaderAt ((bytes.drop offset).take 40) 0 = sectionHeaderAt bytes offset := by
  simp only [sectionHeaderAt, Nat.zero_add, List.drop_zero, List.take_take]
  simp (disch := omega) only [field_window]
  rfl

theorem sections_outlineAt (bytes : Bytes) (start : Nat) :
    (outlineAt bytes start).sections =
      (entriesAt bytes (tableAt bytes start) (sectionCountAt bytes start)).map
        (sectionHeaderAt · 0) := by
  simp only [outlineAt, entriesAt, List.map_map, Function.comp_def, sectionHeaderAt_window]

theorem readDosHeader_eq_of_agreeOn (agree : left.AgreeOn right (Set.Iio offset))
    (behind : 64 ≤ offset) : readDosHeader left = readDosHeader right := by
  have word : ∀ {width first}, first + width ≤ 64 →
      readWord left width first = readWord right width first := fun within =>
    readWord_eq_of_agreeOn agree fun place member => by
      have := member.2
      exact Set.mem_Iio.mpr (by omega)
  rw [readDosHeader, readDosHeader, word (by decide), word (by decide), require, require,
    agree.length]

namespace Reordered

variable (reordered : Reordered view other outline.headers)
  (read : readDosHeader view.bytes = .ok dos)
  (follows : readOutline view.bytes dos = .ok outline)
include reordered read follows

theorem sameFront : readDosHeader other.bytes = .ok dos ∧
    readOutline other.bytes dos = .ok (outlineAt other.bytes dos.nextHeader) ∧
    SameFront view.bytes other.bytes dos.nextHeader := by
  obtain ⟨held, rfl⟩ := readOutline_eq_ok_iff.mp follows
  have room := directoriesAt_le_tableAt fun condition member =>
    held condition (List.mem_append_left _ (List.mem_append_right _ member))
  have below : view.bytes.AgreeOn other.bytes (Set.Iio (tableAt view.bytes dos.nextHeader)) :=
    ⟨reordered.elsewhere.length, fun place member =>
      reordered.elsewhere.bytes place fun inTable => Nat.not_le.mpr member inTable.1⟩
  have far : 64 ≤ tableAt view.bytes dos.nextHeader := by
    have := (layoutAt view.bytes dos.nextHeader).fixedSize_bounds.1
    unfold directoriesAt at room
    omega
  have same := sameFront_of_agreeOn below room
  refine ⟨readDosHeader_eq_of_agreeOn below far ▸ read, ?_, same⟩
  exact readOutline_eq_ok_iff.mpr ⟨same.grammar_eq ▸ held, rfl⟩

/-- The sections are the same ones. -/
theorem sections_perm : outline.sections.Perm (outlineAt other.bytes dos.nextHeader).sections := by
  obtain ⟨_, _, same⟩ := sameFront reordered read follows
  obtain ⟨_, rfl⟩ := readOutline_eq_ok_iff.mp follows
  rw [sections_outlineAt, sections_outlineAt, ← same.table, ← same.sections]
  exact reordered.entries.map _

/-- The directory of exports is the same where it is not made of bytes of the table. -/
theorem exportDirectory_eq
    (clear : ∀ place ∈ outline.headers.exportSlotPlaces dos.nextHeader,
      place ∉ outline.headers.tablePlaces) :
    outline.headers.directory 0 = (outlineAt other.bytes dos.nextHeader).headers.directory 0 := by
  obtain ⟨_, _, same⟩ := sameFront reordered read follows
  obtain ⟨_, rfl⟩ := readOutline_eq_ok_iff.mp follows
  rw [directory_outlineAt, directory_outlineAt, ← same.declared, ← same.directories]
  by_cases declared : 0 < declaredAt view.bytes dos.nextHeader
  · have word : ∀ {spot}, directoriesAt view.bytes dos.nextHeader ≤ spot →
        spot + 4 ≤ directoriesAt view.bytes dos.nextHeader + 8 →
        view.bytes.field 4 spot = other.bytes.field 4 spot := fun above below =>
      field_eq_of_agreeOn reordered.elsewhere fun place member => by
        refine clear place ⟨declared, Nat.le_trans above member.1, ?_⟩
        exact Nat.lt_of_lt_of_le member.2 below
    simp only [if_pos declared, directoryAt]
    rw [word (by omega) (by omega), word (by omega) (by omega)]
  · simp only [if_neg declared]

end Reordered

/-! ## Tables of two entries -/

section Two

variable {head one two rest : Bytes} {base table : Nat} (front : head.length = table)
  (sizeOne : one.length = 40) (sizeTwo : two.length = 40)
include front sizeOne sizeTwo

theorem entriesAt_append : entriesAt (head ++ one ++ two ++ rest) table 2 = [one, two] := by
  have atFirst : (head ++ one ++ two ++ rest).drop table = one ++ (two ++ rest) := by
    rw [List.append_assoc, List.append_assoc, List.drop_left' front]
  have atSecond : (head ++ one ++ two ++ rest).drop (table + 40) = two ++ rest := by
    rw [← List.drop_drop, atFirst, List.drop_left' sizeOne]
  simp only [entriesAt, List.range_succ, List.range_zero, List.map_cons, List.map_nil,
    List.nil_append, List.cons_append, Nat.zero_mul, Nat.one_mul, Nat.add_zero, atFirst, atSecond,
    List.take_left' sizeOne, List.take_left' sizeTwo]

theorem agreeOn_append :
    (head ++ one ++ two ++ rest).AgreeOn (head ++ two ++ one ++ rest)
      { place | place ∉ Set.Ico table (table + 40 * 2) } := by
  refine ⟨by simp [sizeOne, sizeTwo], fun place outside => ?_⟩
  have behind : table ≤ place → table + 40 * 2 ≤ place := fun above =>
    Nat.le_of_not_lt fun below => outside ⟨above, below⟩
  simp only [List.getElem?_append, List.length_append, front, sizeOne, sizeTwo]
  by_cases before : place < table
  · have inFront : place < table + 40 := by omega
    have within : place < table + 40 + 40 := by omega
    simp only [before, inFront, within, if_true]
  · have beyond : ¬place < table + 40 + 40 := by
      have := behind (Nat.le_of_not_lt before)
      omega
    simp only [beyond, if_false]

theorem reordered_append {headers : Headers} (place : headers.sectionTable = table)
    (count : headers.file.sectionCount = 2) :
    Reordered ⟨base, head ++ one ++ two ++ rest⟩ ⟨base, head ++ two ++ one ++ rest⟩ headers where
  base := rfl
  elsewhere := by
    rw [Headers.tablePlaces, place, count]
    exact agreeOn_append front sizeOne sizeTwo
  entries := by
    rw [place, count, entriesAt_append front sizeOne sizeTwo,
      entriesAt_append front sizeTwo sizeOne]
    exact .swap ..

end Two

end Landmark.Image
