import Landmark.Proofs.Image.Locality

/-! # Directories beyond the optional header

The optional header says how many directories there are, and the header in front of it how long it
is. The reader takes the directories by their number alone. So where the number is too great for the
size, the last ones are made of bytes of the section table; where it is not, no byte of the table
has a part in them.
-/

namespace Landmark.Image

variable {bytes other : Bytes} {start slot : Nat} {headers : Headers}

/-- What it takes for headers to be read. -/
structure Headed (bytes : Bytes) (start : Nat) : Prop where
  file : start + 24 ≤ bytes.length
  signed : (bytes.drop start).take 4 = peSignature
  optional : ∀ condition ∈ optionalGrammar bytes start, condition.holds = true
  directories : directoriesAt bytes start + 8 * declaredAt bytes start ≤ bytes.length

theorem headed_of_readHeaders (read : readHeaders bytes start = .ok headers) :
    Headed bytes start ∧ headers = (outlineAt bytes start).headers := by
  by_cases signature : start + 4 ≤ bytes.length
  case neg =>
    rw [readHeaders, require_of_past (by omega)] at read
    cases read
  by_cases signed : (bytes.drop start).take 4 = peSignature
  case neg =>
    have differs : bytes.slice? start 4 ≠ some peSignature := fun sliced =>
      signed (Bytes.slice?_eq_some_iff.mp sliced).2.symm
    rw [readHeaders, require_of_fits signature, ok_bind, if_pos differs] at read
    cases read
  rw [readHeaders_of_signed signature signed] at read
  by_cases file : start + 24 ≤ bytes.length
  case neg =>
    rw [readFileHeader, require_of_past (by omega)] at read
    cases read
  rw [readFileHeader_of_fits file, ok_bind] at read
  obtain ⟨optional, here, read⟩ := bind_eq_ok.mp read
  have judgement := (readOptionalHeader_eq bytes start).symm.trans here
  obtain ⟨held, rfl⟩ := judged_eq_ok_iff.mp judgement
  obtain ⟨directories, row, same⟩ := bind_eq_ok.mp read
  by_cases room : directoriesAt bytes start + 8 * declaredAt bytes start ≤ bytes.length
  case neg =>
    have past := readDirectories_of_past (directoriesAt_le held) (Nat.lt_of_not_le room)
    cases past.symm.trans row
  have whole := readDirectories_of_fits room
  obtain rfl := Except.ok.inj (whole.symm.trans row)
  exact ⟨⟨file, signed, held, room⟩, (Except.ok.inj same).symm⟩

theorem Headed.readHeaders (headed : Headed bytes start) :
    readHeaders bytes start = .ok (outlineAt bytes start).headers := by
  have optional : readOptionalHeader bytes (start + 24) (fileHeaderAt bytes start).optionalSize =
      .ok (optionalHeaderAt bytes start) :=
    (readOptionalHeader_eq bytes start).trans (judged_eq_ok_iff.mpr ⟨headed.optional, rfl⟩)
  have directories := readDirectories_of_fits headed.directories
  rw [readHeaders_of_signed (by have := headed.file; omega) headed.signed,
    readFileHeader_of_fits headed.file, ok_bind, optional, ok_bind]
  exact congrArg (· >>= _) directories

theorem SameFront.headed (same : SameFront bytes other start) (headed : Headed bytes start) :
    Headed other start where
  file := same.length ▸ headed.file
  signed := same.signature ▸ headed.signed
  optional := same.optionalGrammar_eq ▸ headed.optional
  directories := by
    rw [← same.length, ← same.directories, ← same.declared]
    exact headed.directories

namespace Headers

/-- The directory of a slot lies in front of the section table. -/
def Houses (headers : Headers) (start slot : Nat) : Prop :=
  headers.directoriesFrom start + 8 * (slot + 1) ≤ headers.sectionTable

instance (headers : Headers) (start slot : Nat) : Decidable (headers.Houses start slot) :=
  inferInstanceAs (Decidable (_ ≤ _))

end Headers

/-- Whatever stands from the section table on, the headers can be read, with the same
directories. -/
def Confined (bytes : Bytes) (start : Nat) (headers : Headers) : Prop :=
  ∀ other, bytes.AgreeOn other (Set.Iio headers.sectionTable) →
    ∃ again, readHeaders other start = .ok again ∧ again.directories = headers.directories

/-- Where each directory lies in front of the table, bytes behind play no part. -/
theorem Headed.confined (headed : Headed bytes start)
    (housed : ∀ slot < declaredAt bytes start,
      directoriesAt bytes start + 8 * (slot + 1) ≤ tableAt bytes start) :
    Confined bytes start (outlineAt bytes start).headers := by
  intro other agree
  have below : bytes.AgreeOn other (Set.Iio (tableAt bytes start)) := agree
  have same := sameFront_of_agreeOn below (directoriesAt_le_tableAt headed.optional)
  refine ⟨_, (same.headed headed).readHeaders, ?_⟩
  change directoryRowAt other start = directoryRowAt bytes start
  refine List.map_congr_left fun slot _ => ?_
  rw [← same.declared, ← same.directories]
  by_cases declared : slot < declaredAt bytes start
  · have room := housed slot declared
    have rva := field_eq_of_below below (show directoriesAt bytes start + slot * 8 + 4 ≤ _ by omega)
    have size :=
      field_eq_of_below below (show directoriesAt bytes start + slot * 8 + 4 + 4 ≤ _ by omega)
    simp only [if_pos declared, directoryAt, rva, size]
  · simp only [if_neg declared]

/-- The last directory ends with a byte that can be chosen freely where it lies in the table. -/
theorem Headed.housed_of_confined (headed : Headed bytes start)
    (confined : Confined bytes start (outlineAt bytes start).headers) :
    ∀ slot < declaredAt bytes start,
      directoriesAt bytes start + 8 * (slot + 1) ≤ tableAt bytes start := by
  intro slot declared
  by_contra spilled
  have fixed := directoriesAt_le_tableAt headed.optional
  have room := headed.directories
  obtain ⟨last, final⟩ : ∃ last, last + 1 = declaredAt bytes start :=
    ⟨declaredAt bytes start - 1, by omega⟩
  obtain ⟨value, changed⟩ : ∃ value,
      some value ≠ bytes[directoriesAt bytes start + 8 * last + 7]? := by
    by_cases zero : bytes[directoriesAt bytes start + 8 * last + 7]? = some 0
    · exact ⟨1, by rw [zero]; decide⟩
    · exact ⟨0, fun same => zero same.symm⟩
  have agree : bytes.AgreeOn (bytes.set (directoriesAt bytes start + 8 * last + 7) value)
      (Set.Iio (tableAt bytes start)) := by
    refine ⟨(List.length_set ..).symm, fun place below => ?_⟩
    have := Set.mem_Iio.mp below
    rw [List.getElem?_set_ne (by omega)]
  obtain ⟨again, read, same⟩ := confined _ agree
  obtain ⟨_, rfl⟩ := headed_of_readHeaders read
  have front := sameFront_of_agreeOn agree fixed
  have shown := congrArg (·.getD last .absent) same
  change Headers.directory _ last = Headers.directory _ last at shown
  rw [directory_outlineAt, directory_outlineAt, ← front.declared, ← front.directories,
    if_pos (by omega), if_pos (by omega)] at shown
  have windows := Bytes.eq_of_toNat_eq (by simp) (congrArg Directory.size shown)
  have bytes_eq := congrArg (·[3]?) windows
  simp only [List.getElem?_take_of_lt (show 3 < 4 by decide), List.getElem?_drop] at bytes_eq
  have place : directoriesAt bytes start + last * 8 + 4 + 3 =
      directoriesAt bytes start + 8 * last + 7 := by omega
  rw [place, List.getElem?_set_self (by omega)] at bytes_eq
  exact changed bytes_eq

/-- **What the directories are read from.** Each that the header declares is read from its slot,
wherever that lies, and the others are absent. Nothing from the section table on takes part in them
just when each slot that is declared lies in front of it. -/
theorem directories_of_readHeaders (read : readHeaders bytes start = .ok headers) :
    headers.sectionTable = start + 24 + headers.file.optionalSize ∧
    (∀ slot, headers.directory slot =
      if slot < headers.declared then directoryAt bytes (headers.directoriesFrom start) slot
      else .absent) ∧
    (Confined bytes start headers ↔
      ∀ slot < headers.declared, headers.Houses start slot) := by
  obtain ⟨headed, rfl⟩ := headed_of_readHeaders read
  exact ⟨rfl, directory_outlineAt bytes start, headed.housed_of_confined, headed.confined⟩

/-- Headers with one directory and an optional header of 96 bytes, which leaves no room for it.
The section behind is called `.text`. -/
def spilled : Bytes :=
  peSignature ++ Bytes.ofNat 2 0x014C ++ Bytes.ofNat 2 1 ++ List.replicate 12 0 ++
    Bytes.ofNat 2 96 ++ List.replicate 2 0 ++ Bytes.ofNat 2 0x010B ++ List.replicate 90 0 ++
    Bytes.ofNat 4 1 ++ Text.Utf8.encode ".text" ++ List.replicate 35 0

theorem exists_spilled : ∃ headers, readHeaders spilled 0 = .ok headers ∧
    headers.sectionTable = 120 ∧ headers.directory 0 = ⟨0x7865742E, 0x74⟩ ∧
    ¬headers.Houses 0 0 := by
  have computed : (readHeaders spilled 0).toOption.any (fun headers =>
      headers.sectionTable = 120 ∧ headers.directory 0 = ⟨0x7865742E, 0x74⟩ ∧
        ¬headers.Houses 0 0) = true := by
    decide +kernel
  obtain ⟨headers, read, shown⟩ := (Option.any_eq_true _ _).mp computed
  exact ⟨headers, toOption_eq_some_iff.mp read, of_decide_eq_true shown⟩

/-- The section table is read as a directory. -/
theorem spilled_reads_table : ∃ headers, readHeaders spilled 0 = .ok headers ∧
    headers.directory 0 ≠ .absent ∧ headers.sectionTable = 0 + 24 + headers.file.optionalSize ∧
    ¬headers.Houses 0 0 := by
  obtain ⟨headers, read, _, shown, spills⟩ := exists_spilled
  obtain ⟨_, rfl⟩ := headed_of_readHeaders read
  exact ⟨_, read, shown ▸ by decide, rfl, spills⟩

theorem directories_of_spilled : ∃ headers, readHeaders spilled 0 = .ok headers ∧
    (∀ slot, headers.directory slot =
      if slot < headers.declared then directoryAt spilled (headers.directoriesFrom 0) slot
      else .absent) ∧
    ¬Confined spilled 0 headers := by
  obtain ⟨headers, read, _, shown, spills⟩ := exists_spilled
  obtain ⟨_, row, confined⟩ := directories_of_readHeaders read
  have declared : 0 < headers.declared := by
    by_contra none
    have absent := (row 0).trans (if_neg none)
    rw [shown] at absent
    cases absent
  exact ⟨headers, read, row, fun all => spills (confined.mp all 0 declared)⟩

end Landmark.Image
