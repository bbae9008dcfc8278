import Landmark.Proofs.Image.Grammar
import Landmark.Proofs.Image.Listing
import Mathlib.Order.Interval.Set.Defs

/-! # Which bytes a reader looks at

Two images of one length that have the same bytes wherever a reader looks are read alike, whether
something comes of it or not. For the fixed parts of the headers these places end where the
directories begin. The reader of exports follows offsets that it has read itself, so the places it
looks at are described by what stands in the image.
-/

namespace Landmark

/-- Two byte strings of one length, with the same bytes in a region. -/
structure Bytes.AgreeOn (left right : Bytes) (region : Set Nat) : Prop where
  length : left.length = right.length
  bytes : ∀ place ∈ region, left[place]? = right[place]?

/-- What is in front of a zero depends on no byte behind the first zero. -/
theorem Bytes.untilNul?_congr {left right : Bytes}
    (same : ∀ place : Nat, (∀ earlier < place, left[earlier]? ≠ some 0) →
      left[place]? = right[place]?) :
    untilNul? left = untilNul? right := by
  induction left generalizing right with
  | nil =>
    cases right with
    | nil => rfl
    | cons first rest => cases same 0 nofun
  | cons byte later ih =>
    cases right with
    | nil => cases same 0 nofun
    | cons first rest =>
      obtain rfl : byte = first := Option.some.inj (same 0 nofun)
      by_cases zero : byte = 0
      · simp [untilNul?, zero]
      · have onward : untilNul? later = untilNul? rest := ih fun place plain => by
          refine same (place + 1) fun earlier below => ?_
          cases earlier with
          | zero => simpa using zero
          | succ earlier => exact plain earlier (Nat.lt_of_succ_lt_succ below)
        simp [untilNul?, zero, onward]

namespace Image

variable {left right : Bytes} {region : Set Nat} {offset count limit start stop : Nat}

/-- The places of a text of at most `limit` bytes at `offset`, its zero among them. Where no zero
ends it, it goes as far as it can. -/
def TextPlaces (bytes : Bytes) (offset limit : Nat) : Set Nat :=
  { place | offset ≤ place ∧ place < offset + limit ∧
    ∀ earlier, offset ≤ earlier → earlier < place → bytes[earlier]? ≠ some 0 }

section Reads

variable (agree : left.AgreeOn right region)
include agree

theorem window_eq_of_agreeOn (covers : Set.Ico offset (offset + count) ⊆ region) :
    (left.drop offset).take count = (right.drop offset).take count := by
  apply List.ext_getElem?
  intro place
  by_cases inside : place < count
  · have here : offset + place ∈ region := covers ⟨by omega, by omega⟩
    simp only [List.getElem?_take_of_lt inside, List.getElem?_drop, agree.bytes _ here]
  · simp only [List.getElem?_take, if_neg inside]

theorem field_eq_of_agreeOn (covers : Set.Ico offset (offset + count) ⊆ region) :
    left.field count offset = right.field count offset :=
  congrArg Bytes.toNat (window_eq_of_agreeOn agree covers)

theorem readWord_eq_of_agreeOn (covers : Set.Ico offset (offset + count) ⊆ region) :
    readWord left count offset = readWord right count offset := by
  simp only [readWord, Bytes.word?, Bytes.slice?, agree.length, window_eq_of_agreeOn agree covers]

theorem readName_eq_of_agreeOn (covers : TextPlaces left offset limit ⊆ region) :
    readName left offset limit = readName right offset limit := by
  have ends : Bytes.untilNul? ((left.drop offset).take limit) =
      Bytes.untilNul? ((right.drop offset).take limit) := by
    apply Bytes.untilNul?_congr
    intro place plain
    by_cases inside : place < limit
    · have here : offset + place ∈ region := by
        refine covers ⟨by omega, by omega, fun earlier above below => ?_⟩
        have before := plain (earlier - offset) (by omega)
        rwa [List.getElem?_take_of_lt (by omega), List.getElem?_drop,
          Nat.add_sub_cancel' above] at before
      simp only [List.getElem?_take_of_lt inside, List.getElem?_drop, agree.bytes _ here]
    · simp only [List.getElem?_take, if_neg inside]
  rw [readName, readName, agree.length, ends]

end Reads

theorem readRow_congr {α : Type} {one other : Nat → Except Fault α} {first : Nat}
    (same : ∀ place, first ≤ place → place < first + count → one place = other place) :
    readRow one count first = readRow other count first := by
  induction count generalizing first with
  | zero => rfl
  | succ count ih =>
    have later : readRow one count (first + 1) = readRow other count (first + 1) :=
      ih fun place above below => same place (by omega) (by omega)
    rw [readRow, readRow, same first (Nat.le_refl _) (by omega), later]

/-! ## The headers -/

/-- Two images whose headers are alike, the directories left aside. -/
structure SameFront (left right : Bytes) (start : Nat) : Prop where
  length : left.length = right.length
  signature : (left.drop start).take 4 = (right.drop start).take 4
  magic : magicAt left start = magicAt right start
  file : fileHeaderAt left start = fileHeaderAt right start
  optional : optionalHeaderAt left start = optionalHeaderAt right start

/-- The fixed part of the optional header ends where the section table begins, or in front. -/
theorem directoriesAt_le_tableAt {bytes : Bytes}
    (held : ∀ condition ∈ optionalGrammar bytes start, condition.holds = true) :
    directoriesAt bytes start ≤ tableAt bytes start := by
  simp only [optionalGrammar, List.mem_cons, List.not_mem_nil, or_false, forall_eq_or_imp,
    forall_eq, decide_eq_true_eq] at held
  exact Nat.add_le_add_left held.2.2.2 _

theorem field_eq_of_below (agree : left.AgreeOn right (Set.Iio stop))
    (below : offset + count ≤ stop) : left.field count offset = right.field count offset :=
  field_eq_of_agreeOn agree fun _ member => Nat.lt_of_lt_of_le member.2 below

theorem sameFront_of_agreeOn (agree : left.AgreeOn right (Set.Iio stop))
    (fixed : directoriesAt left start ≤ stop) : SameFront left right start := by
  have least := (layoutAt left start).fixedSize_bounds.1
  unfold directoriesAt at fixed
  have magic : magicAt left start = magicAt right start := field_eq_of_below agree (by omega)
  have layout : layoutAt left start = layoutAt right start := by rw [layoutAt, magic, layoutAt]
  have base : imageBaseAt left (start + 24) (layoutAt left start) =
      imageBaseAt right (start + 24) (layoutAt left start) := by
    cases layoutAt left start <;> exact field_eq_of_below agree (by omega)
  refine {
    length := agree.length
    signature := window_eq_of_agreeOn agree fun place member => ?_
    magic
    file := ?_
    optional := ?_ }
  · have := member.2
    exact Set.mem_Iio.mpr (by omega)
  · simp only [fileHeaderAt, sectionCountAt, optionalSizeAt]
    simp (disch := omega) only [field_eq_of_below agree]
  · simp only [optionalHeaderAt, directoriesAt, base, ← layout]
    simp (disch := omega) only [field_eq_of_below agree]

namespace SameFront

variable (same : SameFront left right start)
include same

theorem size : optionalSizeAt left start = optionalSizeAt right start :=
  congrArg FileHeader.optionalSize same.file

theorem sections : sectionCountAt left start = sectionCountAt right start :=
  congrArg FileHeader.sectionCount same.file

theorem layout : layoutAt left start = layoutAt right start :=
  congrArg OptionalHeader.layout same.optional

theorem directories : directoriesAt left start = directoriesAt right start := by
  rw [directoriesAt, same.layout, directoriesAt]

theorem declared : declaredAt left start = declaredAt right start :=
  congrArg (fun optional => min maxDirectories optional.directoryCount) same.optional

theorem table : tableAt left start = tableAt right start := by
  rw [tableAt, same.size, tableAt]

theorem optionalGrammar_eq : optionalGrammar left start = optionalGrammar right start := by
  simp only [optionalGrammar, same.length, same.magic, same.size, same.layout]

theorem grammar_eq : grammar left start = grammar right start := by
  simp only [grammar, signatureGrammar, same.optionalGrammar_eq, tableGrammar, firstMissingWord,
    same.length, same.signature, same.sections, same.directories, same.declared, same.table]

end SameFront

namespace Headers

/-- How many directories are read. -/
def declared (headers : Headers) : Nat := min maxDirectories headers.optional.directoryCount

/-- Where the directories of headers at `start` begin. -/
def directoriesFrom (headers : Headers) (start : Nat) : Nat :=
  start + 24 + headers.optional.layout.fixedSize

end Headers

theorem directory_outlineAt (bytes : Bytes) (start slot : Nat) :
    (outlineAt bytes start).headers.directory slot =
      if slot < declaredAt bytes start then directoryAt bytes (directoriesAt bytes start) slot
      else .absent := by
  have few : declaredAt bytes start ≤ maxDirectories := Nat.min_le_left _ _
  by_cases listed : slot < maxDirectories
  · simp [Headers.directory, outlineAt, directoryRowAt, List.getD_eq_getElem?_getD, listed]
  · simp [Headers.directory, outlineAt, directoryRowAt, List.getD_eq_getElem?_getD, listed,
      Nat.not_lt.mpr (Nat.le_trans few (Nat.le_of_not_lt listed))]

/-! ## The exports -/

/-- The places of the tables of an export directory, of the names that they list and of what
may be the name of a function elsewhere. -/
inductive TablePlace (bytes : Bytes) (place : Directory) (directory : ExportDirectory) :
    Nat → Prop where
  | library {i : Nat} : directory.library ≠ 0 → i ∈ TextPlaces bytes directory.library 256 →
    TablePlace bytes place directory i
  | nameSlot {slot i : Nat} : slot < directory.nameCount →
    i ∈ Set.Ico (directory.names + slot * 4) (directory.names + slot * 4 + 4) →
    TablePlace bytes place directory i
  | numberSlot {slot i : Nat} : slot < directory.nameCount →
    i ∈ Set.Ico (directory.numbers + slot * 2) (directory.numbers + slot * 2 + 2) →
    TablePlace bytes place directory i
  | name {slot i : Nat} : slot < directory.nameCount → directory.nameAt bytes slot ≠ 0 →
    i ∈ TextPlaces bytes (directory.nameAt bytes slot) 512 → TablePlace bytes place directory i
  | function {number i : Nat} : number < directory.functionCount →
    i ∈ Set.Ico (directory.functions + number * 4) (directory.functions + number * 4 + 4) →
    TablePlace bytes place directory i
  | forwarder {number i : Nat} : number < directory.functionCount →
    directory.functionAt bytes number ≠ 0 →
    place.contains (directory.functionAt bytes number) = true →
    i ∈ TextPlaces bytes (directory.functionAt bytes number) 256 →
    TablePlace bytes place directory i

/-- The places that an export directory takes, with all that it leads to. -/
def exportPlaces (bytes : Bytes) (place : Directory) (limit : Nat) : Set Nat :=
  { i | place.isPresent = true ∧ (i ∈ Set.Ico place.rva (place.rva + 40) ∨
    TablePlace bytes place (exportDirectoryAt bytes place.rva limit) i) }

/-- Exports of which nothing stands in front of an offset. -/
structure ExportsBehind (bytes : Bytes) (place : Directory) (directory : ExportDirectory)
    (stop : Nat) : Prop where
  head : stop ≤ place.rva
  library : directory.library ≠ 0 → stop ≤ directory.library
  tables : stop ≤ directory.names ∧ stop ≤ directory.numbers ∧ stop ≤ directory.functions
  names : ∀ slot < directory.nameCount, directory.nameAt bytes slot ≠ 0 →
    stop ≤ directory.nameAt bytes slot

instance (bytes : Bytes) (place : Directory) (directory : ExportDirectory) (stop : Nat) :
    Decidable (ExportsBehind bytes place directory stop) :=
  decidable_of_iff
    (stop ≤ place.rva ∧ (directory.library ≠ 0 → stop ≤ directory.library) ∧
      (stop ≤ directory.names ∧ stop ≤ directory.numbers ∧ stop ≤ directory.functions) ∧
      ∀ slot < directory.nameCount, directory.nameAt bytes slot ≠ 0 →
        stop ≤ directory.nameAt bytes slot)
    ⟨fun all => ⟨all.1, all.2.1, all.2.2.1, all.2.2.2⟩,
      fun behind => ⟨behind.head, behind.library, behind.tables, behind.names⟩⟩

theorem exportPlaces_subset_Ici {bytes : Bytes} {place : Directory}
    (behind : ExportsBehind bytes place (exportDirectoryAt bytes place.rva limit) stop) :
    exportPlaces bytes place limit ⊆ Set.Ici stop := by
  rintro i ⟨_, head | table⟩
  · exact Nat.le_trans behind.head head.1
  obtain ⟨names, numbers, functions⟩ := behind.tables
  apply Set.mem_Ici.mpr
  cases table with
  | library named text => exact Nat.le_trans (behind.library named) text.1
  | nameSlot counted here => have := here.1; omega
  | numberSlot counted here => have := here.1; omega
  | name counted used text => exact Nat.le_trans (behind.names _ counted used) text.1
  | function counted here => have := here.1; omega
  | forwarder counted used within text =>
    simp only [Directory.contains, Bool.and_eq_true, decide_eq_true_eq] at within
    exact Nat.le_trans behind.head (Nat.le_trans within.1 text.1)

section Exports

variable {place : Directory} {directory : ExportDirectory} (agree : left.AgreeOn right region)
include agree

section Tables

variable (covers : ∀ i, TablePlace left place directory i → i ∈ region)
include covers

theorem readNameSlot_eq_of_agreeOn {slot : Nat} (counted : slot < directory.nameCount) :
    readNameSlot left directory slot = readNameSlot right directory slot := by
  have name := readWord_eq_of_agreeOn agree fun i member => covers i (.nameSlot counted member)
  have number := readWord_eq_of_agreeOn agree fun i member => covers i (.numberSlot counted member)
  rw [readNameSlot, readNameSlot, ← name, ← number]
  cases word : readWord left 4 (directory.names + slot * 4) with
  | error fault => rfl
  | ok rva =>
    have here : rva = directory.nameAt left slot := (readWord_eq_ok_iff.mp word).2
    subst here
    by_cases unused : directory.nameAt left slot = 0
    · simp only [ok_bind, unused, if_true]
    · have text := readName_eq_of_agreeOn agree fun i member =>
        covers i (.name counted unused member)
      simp only [ok_bind, unused, if_false, text]

theorem readNames_eq_of_agreeOn : readNames left directory = readNames right directory := by
  have slots : readRow (readNameSlot left directory) directory.nameCount 0 =
      readRow (readNameSlot right directory) directory.nameCount 0 :=
    readRow_congr fun slot _ counted =>
      readNameSlot_eq_of_agreeOn agree covers (by simpa using counted)
  rw [readNames, slots, readNames]

theorem readExport_eq_of_agreeOn {number : Nat} (counted : number < directory.functionCount)
    (names : List (Nat × String)) :
    readExport left place directory names number =
      readExport right place directory names number := by
  have function := readWord_eq_of_agreeOn agree fun i member => covers i (.function counted member)
  rw [readExport, readExport, ← function]
  cases word : readWord left 4 (directory.functions + number * 4) with
  | error fault => rfl
  | ok rva =>
    have here : rva = directory.functionAt left number := (readWord_eq_ok_iff.mp word).2
    subst here
    by_cases unused : directory.functionAt left number = 0
    · simp only [ok_bind, unused, if_true]
    by_cases within : place.contains (directory.functionAt left number) = true
    · have text := readName_eq_of_agreeOn agree fun i member =>
        covers i (.forwarder counted unused within member)
      simp only [ok_bind, text]
    · simp only [ok_bind, within, Bool.false_eq_true, if_false]

end Tables

/-- **The exports are read from their places.** Images that agree there have the same table of
exports, or the same fault in it. -/
theorem readExports_eq_of_agreeOn (covers : exportPlaces left place limit ⊆ region) :
    readExports left place limit = readExports right place limit := by
  unfold readExports
  by_cases present : place.isPresent = true
  case neg => simp [present]
  simp only [present, Bool.not_true, Bool.false_eq_true, if_false, ← agree.length]
  by_cases inside : place.rva + 40 ≤ left.length
  case neg =>
    rw [if_pos (Nat.lt_of_not_le inside), if_pos (Nat.lt_of_not_le inside)]
    rfl
  have head : ∀ {first count}, first + count ≤ 40 →
      left.field count (place.rva + first) = right.field count (place.rva + first) := by
    intro first count within
    refine field_eq_of_agreeOn agree fun i member => covers ⟨present, .inl ⟨?_, ?_⟩⟩
    · exact Nat.le_trans (Nat.le_add_right _ _) member.1
    · have := member.2
      omega
  have directory : exportDirectoryAt left place.rva limit =
      exportDirectoryAt right place.rva limit := by
    simp only [exportDirectoryAt]
    simp (disch := omega) only [head]
  have tables : ∀ i, TablePlace left place (exportDirectoryAt left place.rva limit) i →
      i ∈ region := fun i member => covers ⟨present, .inr member⟩
  have slots : ∀ names, readRow
      (readExport left place (exportDirectoryAt left place.rva limit) names)
      (exportDirectoryAt left place.rva limit).functionCount 0 =
        readRow (readExport right place (exportDirectoryAt left place.rva limit) names)
          (exportDirectoryAt left place.rva limit).functionCount 0 := fun names =>
    readRow_congr fun number _ counted =>
      readExport_eq_of_agreeOn agree tables (by simpa using counted) names
  have library : (exportDirectoryAt left place.rva limit).library ≠ 0 →
      readName left (exportDirectoryAt left place.rva limit).library 256 =
        readName right (exportDirectoryAt left place.rva limit).library 256 := fun named =>
    readName_eq_of_agreeOn agree fun i member => tables i (.library named member)
  rw [readExportDirectory_of_fits inside, readExportDirectory_of_fits (agree.length ▸ inside),
    ← directory]
  simp only [ok_bind, readNames_eq_of_agreeOn agree tables, slots]
  by_cases named : (exportDirectoryAt left place.rva limit).library = 0
  · simp only [named, if_true]
  · simp only [library named]

end Exports

end Image

end Landmark
