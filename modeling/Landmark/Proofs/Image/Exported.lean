import Landmark.Proofs.Image.Built

/-! # Reading the exports of a built image

The export directory of a coherent blueprint lists its exports one for one, each under its
number, and none of them is forwarded.
-/

namespace Landmark

open Image

theorem find?_eq_of_unique {α : Type} {row : List α} {test : α → Bool} {entry : α}
    (member : entry ∈ row) (passes : test entry = true)
    (unique : ∀ other ∈ row, test other = true → other = entry) :
    row.find? test = some entry := by
  cases found : row.find? test with
  | none => exact absurd passes (List.find?_eq_none.mp found entry member)
  | some other =>
    exact congrArg some (unique other (List.mem_of_find?_eq_some found) (List.find?_some found))

namespace Image

open Text (Utf8.encode)

/-- A text that ends in front of the limit is read as it was written. -/
theorem readName_of_text {bytes : Bytes} {offset limit : Nat} {name : String}
    (plain : 0 ∉ Utf8.encode name) (short : (Utf8.encode name).length < limit)
    (inside : offset ≤ bytes.length)
    (text : (bytes.drop offset).take ((Utf8.encode name).length + 1) = Utf8.encode name ++ [0]) :
    readName bytes offset limit = .ok name := by
  have split : (bytes.drop offset).take limit = Utf8.encode name ++ 0 ::
      ((bytes.drop offset).take limit).drop ((Utf8.encode name).length + 1) := by
    have front : ((bytes.drop offset).take limit).take ((Utf8.encode name).length + 1) =
        Utf8.encode name ++ [0] := by
      rw [List.take_take, Nat.min_eq_left short, text]
    rw [← List.singleton_append, ← List.append_assoc, ← front, List.take_append_drop]
  rw [readName, if_neg (Nat.not_lt.mpr inside), split, Bytes.untilNul?_append plain]
  dsimp only
  rw [Text.Utf8.decode?_encode]

namespace Blueprint

variable {blueprint : Blueprint} {functions names numbers number texts : Nat}
  {exports : List (String × Nat)} {lot : Lot}

def entryOf (entry : (String × Nat) × Nat) : Export where
  name := some entry.1.1
  ordinal := 1 + entry.2
  rva := entry.1.2
  forwarder := none

/-- The exports of a blueprint, in their order. -/
def exportTable (blueprint : Blueprint) : ExportTable :=
  if blueprint.exports.isEmpty then .empty
  else { library := none, ordinalBase := 1, entries := blueprint.exports.zipIdx.map entryOf }

theorem mem_slotLots {place : Nat} (inside : place < exports.length)
    (member : lot ∈ slot functions names numbers exports[place] (number + place)
      (texts + (exportTexts (exports.take place)).length)) :
    lot ∈ slotLots functions names numbers exports number texts := by
  induction exports generalizing number texts place with
  | nil => cases inside
  | cons entry rest ih =>
    cases place with
    | zero => exact List.mem_append_left _ (by simpa [exportTexts] using member)
    | succ place =>
      refine List.mem_append_right _ (ih (Nat.lt_of_succ_lt_succ inside) ?_)
      rw [List.take_succ_cons, length_exportTexts_cons] at member
      have number_eq : number + (place + 1) = number + 1 + place := by omega
      have texts_eq : texts + ((Utf8.encode entry.1).length + 1 +
          (exportTexts (rest.take place)).length) =
          texts + (Utf8.encode entry.1).length + 1 + (exportTexts (rest.take place)).length := by
        omega
      rwa [number_eq, texts_eq] at member

/-- Where the three tables of the exports stand. -/
def functionsPlace : Nat := exportPlace + 40

def namesPlace (blueprint : Blueprint) : Nat := functionsPlace + blueprint.exports.length * 4

def numbersPlace (blueprint : Blueprint) : Nat :=
  blueprint.namesPlace + blueprint.exports.length * 4

def textPlace (blueprint : Blueprint) (number : Nat) : Nat :=
  blueprint.numbersPlace + blueprint.exports.length * 2 +
    (exportTexts (blueprint.exports.take number)).length

def directory (blueprint : Blueprint) : ExportDirectory where
  library := 0
  ordinalBase := 1
  functionCount := blueprint.exports.length
  nameCount := blueprint.exports.length
  functions := functionsPlace
  names := blueprint.namesPlace
  numbers := blueprint.numbersPlace

/-- The names that the directory gives, each with its number. -/
def nameRow (blueprint : Blueprint) : List (Nat × String) :=
  blueprint.exports.zipIdx.map fun entry => (entry.2, entry.1.1)

theorem nameOf_nameRow {place : Nat} (inside : place < blueprint.exports.length) :
    nameOf blueprint.nameRow place = some blueprint.exports[place].1 := by
  have member : (place, blueprint.exports[place].1) ∈ blueprint.nameRow :=
    List.mem_map.mpr ⟨(blueprint.exports[place], place),
      List.mk_mem_zipIdx_iff_getElem?.mpr (List.getElem?_eq_getElem inside), rfl⟩
  have found : blueprint.nameRow.reverse.find? (fun named => named.1 == place) =
      some (place, blueprint.exports[place].1) := by
    refine find?_eq_of_unique (List.mem_reverse.mpr member) (by simp) fun other among same => ?_
    obtain ⟨⟨entry, number⟩, indexed, rfl⟩ := List.mem_map.mp (List.mem_reverse.mp among)
    obtain rfl : number = place := by simpa using same
    have here := List.mk_mem_zipIdx_iff_getElem?.mp indexed
    rw [List.getElem?_eq_getElem inside, Option.some.injEq] at here
    rw [here]
  rw [nameOf, found, Option.map_some]

theorem textPlace_le {number : Nat} (inside : number < blueprint.exports.length) :
    blueprint.textPlace number < blueprint.exportStop := by
  have split : (exportTexts blueprint.exports).length =
      (exportTexts (blueprint.exports.take number)).length +
        (exportTexts (blueprint.exports.drop number)).length := by
    rw [← List.length_append, exportTexts, exportTexts, exportTexts, ← List.flatMap_append,
      List.take_append_drop]
  rw [List.drop_eq_getElem_cons inside, length_exportTexts_cons] at split
  unfold textPlace numbersPlace namesPlace functionsPlace exportStop
  omega

theorem exportLots_of_ne_nil (any : blueprint.exports ≠ []) (entry : Nat) :
    blueprint.exportLots entry =
      [.exact (exportPlace + 16, Bytes.ofNat 4 1),
       .exact (exportPlace + 20, Bytes.ofNat 4 blueprint.exports.length),
       .exact (exportPlace + 24, Bytes.ofNat 4 blueprint.exports.length),
       .exact (exportPlace + 28, Bytes.ofNat 4 functionsPlace),
       .exact (exportPlace + 32, Bytes.ofNat 4 blueprint.namesPlace),
       .exact (exportPlace + 36, Bytes.ofNat 4 blueprint.numbersPlace)] ++
      slotLots functionsPlace blueprint.namesPlace blueprint.numbersPlace blueprint.exports 0
        (blueprint.textPlace 0) ++
      [.exact (entry, Bytes.ofNat 4 exportPlace),
       .exact (entry + 4, Bytes.ofNat 4 (blueprint.exportStop - exportPlace))] := by
  have stop : blueprint.exportStop = blueprint.numbersPlace + blueprint.exports.length * 2 +
      (exportTexts blueprint.exports).length := by
    unfold exportStop numbersPlace namesPlace functionsPlace
    omega
  unfold exportLots
  rw [if_neg (by simpa using any), stop]
  rfl

namespace Coherent

variable (coherent : blueprint.Coherent)
include coherent

theorem exportStop_le : blueprint.exportStop ≤ blueprint.build.length := by
  rw [coherent.length_build]
  exact Nat.le_trans coherent.paged blueprint.pageSize_le_size

theorem field_export {count place value : Nat}
    (member : Lot.exact (place, Bytes.ofNat count value) ∈
      blueprint.exportLots blueprint.directories)
    (small : value < 256 ^ count) : blueprint.build.field count place = value :=
  (coherent.sits (List.mem_append_left _ (List.mem_append_right _ member))).field_eq small

/-- The directory names no library. -/
theorem field_library : blueprint.build.field 4 (exportPlace + 12) = 0 := by
  have table := coherent.table_le
  have directories := blueprint.directories_le
  have least := blueprint.pageSize_le_size
  have header : exportPlace + 16 ≤ pageSize := by decide
  refine (coherent.sits_free (by omega) fun other among => ?_).field_eq_zero
  rw [Lot.free_apart_iff]
  rcases coherent.bounds_of_mem among with _ | _ | _ | _ | ⟨planned, member, content⟩
  case inr.inr.inr.inr =>
    have above := (coherent.placed planned member).above
    omega
  all_goals omega

section Present

variable (any : blueprint.exports ≠ [])
include any

theorem directory_of_exports :
    (outlineAt blueprint.build blueprint.nextHeader).headers.directory 0 =
      { rva := exportPlace, size := blueprint.exportStop - exportPlace } := by
  have paged := coherent.paged
  simp only [pageSize] at paged
  have rva : blueprint.build.field 4 blueprint.directories = exportPlace :=
    coherent.field_export (by rw [exportLots_of_ne_nil any]; simp) (by decide)
  have size : blueprint.build.field 4 (blueprint.directories + 4) =
      blueprint.exportStop - exportPlace :=
    coherent.field_export (by rw [exportLots_of_ne_nil any]; simp) (by omega)
  rw [coherent.directory_outlineAt, rva, size]

theorem readExportDirectory_build {limit : Nat} (allowed : blueprint.exports.length ≤ limit) :
    readExportDirectory blueprint.build exportPlace limit = .ok blueprint.directory := by
  have paged := coherent.paged
  have inside := coherent.exportStop_le
  have few : blueprint.exports.length < 256 ^ 4 := by
    simp only [exportStop, pageSize] at paged
    omega
  have base : blueprint.build.field 4 (exportPlace + 16) = 1 :=
    coherent.field_export (by rw [exportLots_of_ne_nil any]; simp) (by decide)
  have functionCount : blueprint.build.field 4 (exportPlace + 20) = blueprint.exports.length :=
    coherent.field_export (by rw [exportLots_of_ne_nil any]; simp) few
  have nameCount : blueprint.build.field 4 (exportPlace + 24) = blueprint.exports.length :=
    coherent.field_export (by rw [exportLots_of_ne_nil any]; simp) few
  have functions : blueprint.build.field 4 (exportPlace + 28) = functionsPlace :=
    coherent.field_export (by rw [exportLots_of_ne_nil any]; simp) (by decide)
  have names : blueprint.build.field 4 (exportPlace + 32) = blueprint.namesPlace :=
    coherent.field_export (by rw [exportLots_of_ne_nil any]; simp) (by
      simp only [exportStop, pageSize, namesPlace, functionsPlace] at paged ⊢
      omega)
  have numbers : blueprint.build.field 4 (exportPlace + 36) = blueprint.numbersPlace :=
    coherent.field_export (by rw [exportLots_of_ne_nil any]; simp) (by
      simp only [exportStop, pageSize, numbersPlace, namesPlace, functionsPlace] at paged ⊢
      omega)
  unfold exportStop at inside
  unfold readExportDirectory
  simp (disch := omega) only [readWord_of_fits, ok_bind, coherent.field_library, base,
    functionCount, nameCount, functions, names, numbers, Nat.min_eq_left allowed]
  rfl

theorem sits_slot {place : Nat} {lot : Lot} (inside : place < blueprint.exports.length)
    (member : lot ∈ slot functionsPlace blueprint.namesPlace blueprint.numbersPlace
      blueprint.exports[place] place (blueprint.textPlace place)) : lot.Sits blueprint.build := by
  refine coherent.sits (List.mem_append_left _ (List.mem_append_right _ ?_))
  rw [exportLots_of_ne_nil any]
  refine List.mem_append_left _ (List.mem_append_right _ (mem_slotLots inside ?_))
  rwa [Nat.zero_add]

theorem readNameSlot_build {place : Nat} (inside : place < blueprint.exports.length) :
    readNameSlot blueprint.build blueprint.directory place =
      .ok (some (place, blueprint.exports[place].1)) := by
  have exported := coherent.exported _ (List.getElem_mem inside)
  have paged := coherent.paged
  have stop := coherent.exportStop_le
  have below := textPlace_le inside
  simp only [exportStop, pageSize] at paged
  have text : blueprint.build.field 4 (blueprint.namesPlace + place * 4) =
      blueprint.textPlace place :=
    (coherent.sits_slot any inside (.tail _ (.head _))).field_eq
      (by simp only [exportStop] at below; omega)
  have number : blueprint.build.field 2 (blueprint.numbersPlace + place * 2) = place :=
    (coherent.sits_slot any inside (.tail _ (.tail _ (.head _)))).field_eq (by omega)
  have name : readName blueprint.build (blueprint.textPlace place) 512 =
      .ok blueprint.exports[place].1 := by
    refine readName_of_text exported.plain (Nat.lt_succ_of_le exported.short) (by omega) ?_
    have sits := coherent.sits_slot any inside (.tail _ (.tail _ (.tail _ (.head _))))
    simpa [Lot.Sits, Lot.content] using sits
  have present : blueprint.textPlace place ≠ 0 := by
    unfold textPlace numbersPlace namesPlace functionsPlace exportPlace
    omega
  unfold exportStop at stop
  unfold readNameSlot directory
  dsimp only
  rw [readWord_of_fits (by unfold namesPlace functionsPlace; omega), ok_bind,
    readWord_of_fits (by unfold numbersPlace namesPlace functionsPlace; omega), ok_bind, text,
    number, if_neg present, name]
  rfl

theorem readNames_build :
    readNames blueprint.build blueprint.directory = .ok blueprint.nameRow := by
  have present : ¬(0 < blueprint.directory.nameCount ∧
      (blueprint.directory.names = 0 ∨ blueprint.directory.numbers = 0)) := by
    simp only [directory, numbersPlace, namesPlace, functionsPlace, exportPlace]
    omega
  have count : blueprint.directory.nameCount = (blueprint.nameRow.map some).length := by
    simp [nameRow, directory]
  have row : readRow (readNameSlot blueprint.build blueprint.directory)
      (blueprint.nameRow.map some).length 0 = .ok (blueprint.nameRow.map some) := by
    refine readRow_of_getElem fun place inside => ?_
    have within : place < blueprint.exports.length := by simpa [nameRow] using inside
    rw [Nat.zero_add, coherent.readNameSlot_build any within]
    simp [nameRow]
  unfold readNames
  rw [if_neg present, count, row]
  simp

theorem readExport_build {place : Nat} (inside : place < blueprint.exports.length) :
    readExport blueprint.build
      { rva := exportPlace, size := blueprint.exportStop - exportPlace } blueprint.directory
      blueprint.nameRow place = .ok (some (entryOf (blueprint.exports[place], place))) := by
  have exported := coherent.exported _ (List.getElem_mem inside)
  have stop := coherent.exportStop_le
  have paged := coherent.paged
  have function : blueprint.build.field 4 (functionsPlace + place * 4) =
      blueprint.exports[place].2 :=
    (coherent.sits_slot any inside (.head _)).field_eq exported.low
  have apart : Directory.contains
      { rva := exportPlace, size := blueprint.exportStop - exportPlace }
      blueprint.exports[place].2 = false := by
    have outside := exported.outside
    simp only [Directory.contains, Bool.and_eq_false_iff, decide_eq_false_iff_not]
    omega
  unfold exportStop at stop
  simp only [exportStop, pageSize] at paged
  unfold readExport directory
  dsimp only
  rw [readWord_of_fits (by unfold functionsPlace; omega), ok_bind, function,
    if_neg (Nat.ne_of_gt exported.present), apart, if_neg (by omega),
    nameOf_nameRow inside]
  rfl

theorem readExports_of_exports {limit : Nat} (allowed : blueprint.exports.length ≤ limit) :
    readExports blueprint.build
      { rva := exportPlace, size := blueprint.exportStop - exportPlace } limit = .ok {
        library := none, ordinalBase := 1, entries := blueprint.exports.zipIdx.map entryOf } := by
  have stop := coherent.exportStop_le
  have present : Directory.isPresent
      { rva := exportPlace, size := blueprint.exportStop - exportPlace } = true := by
    have sized : 0 < blueprint.exportStop - exportPlace := by
      unfold exportStop
      omega
    rw [Directory.isPresent, decide_eq_true sized]
    rfl
  have count : blueprint.directory.functionCount =
      ((blueprint.exports.zipIdx.map entryOf).map some).length := by
    simp [directory]
  have row : readRow (readExport blueprint.build
      { rva := exportPlace, size := blueprint.exportStop - exportPlace } blueprint.directory
      blueprint.nameRow) ((blueprint.exports.zipIdx.map entryOf).map some).length 0 =
        .ok ((blueprint.exports.zipIdx.map entryOf).map some) := by
    refine readRow_of_getElem fun place inside => ?_
    have within : place < blueprint.exports.length := by simpa using inside
    rw [Nat.zero_add, coherent.readExport_build any within]
    simp
  unfold exportStop at stop
  unfold readExports
  dsimp only
  rw [present, if_neg (by decide), if_neg (by omega),
    coherent.readExportDirectory_build any allowed, ok_bind,
    if_pos (show blueprint.directory.library = 0 from rfl), pure_bind,
    coherent.readNames_build any, ok_bind, count, row]
  simp [directory]

end Present

/-- Without exports nothing is written to the entry that would point to them. -/
theorem directory_of_no_exports (none : blueprint.exports = []) :
    (outlineAt blueprint.build blueprint.nextHeader).headers.directory 0 = .absent := by
  have table := coherent.table_le
  have directories := blueprint.directories_le
  have least := blueprint.pageSize_le_size
  have header : exportPlace < pageSize := by decide
  have empty : ∀ {place : Nat}, blueprint.directories ≤ place →
      place + 4 ≤ blueprint.directories + 8 → blueprint.build.field 4 place = 0 := by
    intro place above below
    refine (coherent.sits_free (by omega) fun other among => ?_).field_eq_zero
    rw [Lot.free_apart_iff]
    rcases coherent.bounds_of_mem among with _ | entry | _ | _ | ⟨planned, member, content⟩
    case inr.inl => exact absurd none entry.1
    case inr.inr.inr.inr =>
      have above := (coherent.placed planned member).above
      omega
    all_goals omega
  rw [coherent.directory_outlineAt, empty (Nat.le_refl _) (by omega), empty (by omega) (by omega)]
  rfl

/-- The exports of a built image are those of its blueprint. -/
theorem readExports_build {limit : Nat} (allowed : blueprint.exports.length ≤ limit) :
    readExports blueprint.build
      ((outlineAt blueprint.build blueprint.nextHeader).headers.directory 0) limit =
        .ok blueprint.exportTable := by
  unfold exportTable
  by_cases none : blueprint.exports = []
  · rw [coherent.directory_of_no_exports none, none]
    rfl
  · rw [coherent.directory_of_exports none, coherent.readExports_of_exports none allowed,
      if_neg (by simpa using none)]

end Coherent

end Blueprint

end Image

end Landmark
