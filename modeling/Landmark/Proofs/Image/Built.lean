import Landmark.Proofs.Image.Grammar
import Landmark.Proofs.Image.Plan
import Landmark.Proofs.Text.Utf8

/-! # Reading the headers of a built image

The image of a coherent blueprint keeps the grammar of headers, and what the headers and the
table of sections say is what the blueprint asks for.
-/

namespace Landmark.Image

open Text (Utf8.encode)

namespace PlannedSection

variable {planned : PlannedSection} {sections : List PlannedSection} {offset : Nat} {lot : Lot}

def header (planned : PlannedSection) : SectionHeader where
  rawName := Utf8.encode planned.name ++ List.replicate (8 - (Utf8.encode planned.name).length) 0
  virtualSize := planned.virtualSize
  rva := planned.rva
  rawSize := planned.content.length
  characteristics := planned.characteristics

/-- The zeros behind a name end it, and nothing in it does. -/
theorem Placed.name_header (placed : planned.Placed) : planned.header.name = planned.name := by
  have ends : (Utf8.encode planned.name ++
      List.replicate (8 - (Utf8.encode planned.name).length) 0).takeWhile (· ≠ 0) =
        Utf8.encode planned.name := by
    rw [List.takeWhile_append_of_pos fun byte among => by
      simpa using fun zero : byte = 0 => placed.plain (zero ▸ among)]
    simp
  rw [SectionHeader.name, header, ends, Text.Utf8.decodeLenient_encode]

/-- How much memory the section takes. One without a size of its own takes that of its content. -/
def size (planned : PlannedSection) : Nat :=
  if planned.virtualSize = 0 then planned.content.length else planned.virtualSize

/-- What the section holds in memory: its content, cut to its size or filled up with zeros. -/
def filled (planned : PlannedSection) : Bytes :=
  planned.content.take planned.size ++
    List.replicate (planned.size - planned.content.length) 0

@[simp] theorem length_filled (planned : PlannedSection) :
    planned.filled.length = planned.size := by
  rw [filled, List.length_append, List.length_take, List.length_replicate]
  omega

theorem size_le (planned : PlannedSection) : planned.rva + planned.size ≤ planned.stop := by
  unfold size stop
  split <;> omega

theorem Placed.size_pos (placed : planned.Placed) : 0 < planned.size := by
  have sized := placed.sized
  simp only [stop] at sized
  unfold size
  split <;> omega

theorem mem_row {place : Nat} (inside : place < sections.length)
    (member : lot ∈ sections[place].lots (offset + place * 40)) : lot ∈ row sections offset := by
  induction sections generalizing offset place with
  | nil => cases inside
  | cons planned rest ih =>
    cases place with
    | zero => exact List.mem_append_left _ (by simpa using member)
    | succ place =>
      refine List.mem_append_right _ (ih (Nat.lt_of_succ_lt_succ inside) ?_)
      have same : offset + (place + 1) * 40 = offset + 40 + place * 40 := by omega
      rwa [same] at member

end PlannedSection

namespace Blueprint.Coherent

variable {blueprint : Blueprint} (coherent : blueprint.Coherent)
include coherent

/-! ## Headers -/

theorem field_header {count place value : Nat}
    (member : (place, Bytes.ofNat count value) ∈ blueprint.dosPieces ++ blueprint.headerPieces)
    (small : value < 256 ^ count) : blueprint.build.field count place = value :=
  (coherent.sits (List.mem_append_left _ (List.mem_append_left _
    (List.mem_map_of_mem member)))).field_eq small

theorem signature :
    (blueprint.build.drop blueprint.nextHeader).take 4 = peSignature :=
  @sits _ coherent (.exact (blueprint.nextHeader, peSignature))
    (List.mem_append_left _ (List.mem_append_left _ (List.mem_map_of_mem
      (by simp [headerPieces]))))

theorem nextHeader_le : blueprint.nextHeader + 24 + 0xE0 ≤ exportPlace := by
  have tabled := coherent.table_le
  unfold table optionalSize at tabled
  have least := blueprint.layout.fixedSize_bounds
  omega

theorem readDosHeader_build : readDosHeader blueprint.build =
    .ok { magic := 0x5A4D, nextHeader := blueprint.nextHeader } := by
  have least : pageSize ≤ blueprint.build.length :=
    coherent.length_build ▸ blueprint.pageSize_le_size
  have header := coherent.nextHeader_le
  simp only [pageSize, exportPlace] at least header
  have magic : blueprint.build.field 2 0 = 0x5A4D :=
    coherent.field_header (by simp [dosPieces, coherent.signed]) (by decide)
  have next : blueprint.build.field 4 60 = blueprint.nextHeader :=
    coherent.field_header (by simp [dosPieces]) (by omega)
  unfold readDosHeader
  rw [require_of_fits (by omega), ok_bind, readWord_of_fits (by omega), ok_bind, magic, if_pos rfl,
    readWord_of_fits (by omega), next]
  rfl

theorem length_sections_le : blueprint.sections.length ≤ 64 := by
  have tabled := coherent.tabled
  simp only [tableStop, table, exportPlace] at tabled
  omega

theorem sectionCountAt_eq :
    sectionCountAt blueprint.build blueprint.nextHeader = blueprint.sections.length :=
  coherent.field_header (by simp [headerPieces])
    (Nat.lt_of_le_of_lt coherent.length_sections_le (by decide))

theorem optionalSizeAt_eq :
    optionalSizeAt blueprint.build blueprint.nextHeader = blueprint.optionalSize :=
  coherent.field_header (by simp [headerPieces])
    (by unfold optionalSize; cases blueprint.layout <;> decide)

theorem magicAt_eq : magicAt blueprint.build blueprint.nextHeader = blueprint.layout.magic :=
  coherent.field_header (by simp [headerPieces]) (by cases blueprint.layout <;> decide)

theorem layoutAt_eq : layoutAt blueprint.build blueprint.nextHeader = blueprint.layout := by
  rw [layoutAt, coherent.magicAt_eq, Layout.ofMagic?_eq_some_iff.mpr rfl, Option.getD_some]

theorem directoriesAt_eq :
    directoriesAt blueprint.build blueprint.nextHeader = blueprint.directories := by
  rw [directoriesAt, coherent.layoutAt_eq, directories]

theorem declaredAt_eq : declaredAt blueprint.build blueprint.nextHeader = maxDirectories := by
  have number : blueprint.build.field 4 (blueprint.directories - 4) = maxDirectories :=
    coherent.field_header (by simp [headerPieces, directories]) (by decide)
  rw [declaredAt, coherent.directoriesAt_eq, number, Nat.min_self]

theorem tableAt_eq : tableAt blueprint.build blueprint.nextHeader = blueprint.table := by
  rw [tableAt, coherent.optionalSizeAt_eq, table]

theorem grammar_holds :
    ∀ condition ∈ grammar blueprint.build blueprint.nextHeader, condition.holds = true := by
  have header := coherent.nextHeader_le
  have table := coherent.table_le
  have tabled := coherent.tabled
  have least := blueprint.pageSize_le_size
  have directories := blueprint.directories_le
  have whole : blueprint.nextHeader + 24 + blueprint.optionalSize ≤ exportPlace := table
  have declared : blueprint.directories + 8 * 16 ≤ blueprint.table := by
    unfold Blueprint.directories Blueprint.table optionalSize
    omega
  have fixed : blueprint.layout.fixedSize ≤ blueprint.optionalSize := Nat.le_add_right _ _
  have magic : blueprint.layout.magic = 0x10B ∨ blueprint.layout.magic = 0x20B := by
    cases blueprint.layout with
    | narrow => exact .inl rfl
    | wide => exact .inr rfl
  have bounds := blueprint.layout.fixedSize_bounds
  -- Once the fields are read back, each condition is a bound on where something ends.
  unfold grammar signatureGrammar optionalGrammar tableGrammar
  simp only [coherent.sectionCountAt_eq, coherent.optionalSizeAt_eq, coherent.magicAt_eq,
    coherent.layoutAt_eq, coherent.directoriesAt_eq, coherent.declaredAt_eq, coherent.tableAt_eq,
    coherent.length_build, coherent.signature, List.cons_append, List.nil_append, List.mem_cons,
    List.not_mem_nil, or_false, forall_eq_or_imp, forall_eq, decide_eq_true_eq, true_and]
  simp only [tableStop, exportPlace, pageSize, maxDirectories] at *
  omega

/-! ## The table of sections -/

theorem sits_section {planned : PlannedSection} {place : Nat} {lot : Lot}
    (found : blueprint.sections[place]? = some planned)
    (member : lot ∈ planned.lots (blueprint.table + place * 40)) : lot.Sits blueprint.build := by
  obtain ⟨inside, rfl⟩ := List.getElem?_eq_some_iff.mp found
  exact coherent.sits (List.mem_append_right _ (PlannedSection.mem_row inside member))

theorem sectionHeaderAt_eq {planned : PlannedSection} {place : Nat}
    (found : blueprint.sections[place]? = some planned) :
    sectionHeaderAt blueprint.build (blueprint.table + place * 40) = planned.header := by
  have placed := coherent.placed planned (List.mem_of_getElem? found)
  have number : ∀ {offset value : Nat}, value < 0x100000000 →
      Lot.exact (blueprint.table + place * 40 + offset, Bytes.ofNat 4 value) ∈
        planned.lots (blueprint.table + place * 40) →
      blueprint.build.field 4 (blueprint.table + place * 40 + offset) = value :=
    fun small member => (coherent.sits_section found member).field_eq small
  have below := placed.below
  simp only [PlannedSection.stop] at below
  have size := @number 8 planned.virtualSize (by omega) (by simp [PlannedSection.lots])
  have rva := @number 12 planned.rva (by omega) (by simp [PlannedSection.lots])
  have raw := @number 16 planned.content.length (by omega) (by simp [PlannedSection.lots])
  have flags := @number 36 planned.characteristics placed.flagged (by simp [PlannedSection.lots])
  have name : (blueprint.build.drop (blueprint.table + place * 40)).take 8 =
      (Utf8.encode planned.name).take 8 ++
        List.replicate (8 - ((Utf8.encode planned.name).take 8).length) 0 :=
    coherent.sits_section found (List.mem_cons_self ..)
  rw [List.take_of_length_le placed.short] at name
  rw [sectionHeaderAt, name, size, rva, raw, flags]
  rfl

theorem sections_outlineAt :
    (outlineAt blueprint.build blueprint.nextHeader).sections =
      blueprint.sections.map PlannedSection.header := by
  simp only [outlineAt, coherent.sectionCountAt_eq, coherent.tableAt_eq]
  refine List.ext_getElem (by simp) fun place left right => ?_
  rw [List.length_map] at right
  rw [List.getElem_map, List.getElem_range, List.getElem_map]
  exact coherent.sectionHeaderAt_eq (List.getElem?_eq_getElem right)

/-- Everything that is read behind the first header. -/
theorem readOutline_build :
    readOutline blueprint.build { magic := 0x5A4D, nextHeader := blueprint.nextHeader } =
      .ok (outlineAt blueprint.build blueprint.nextHeader) :=
  readOutline_eq_ok_iff.mpr ⟨coherent.grammar_holds, rfl⟩

theorem directory_outlineAt :
    (outlineAt blueprint.build blueprint.nextHeader).headers.directory 0 =
      { rva := blueprint.build.field 4 blueprint.directories
        size := blueprint.build.field 4 (blueprint.directories + 4) } := by
  simp [outlineAt, Headers.directory, directoryRowAt, coherent.declaredAt_eq,
    coherent.directoriesAt_eq, maxDirectories, directoryAt]

/-- A section stands in the image as it is filled. -/
theorem slice_build {planned : PlannedSection} (member : planned ∈ blueprint.sections) :
    (blueprint.build.drop planned.rva).take planned.size = planned.filled := by
  obtain ⟨place, inside, found⟩ := List.getElem_of_mem member
  have sits : (blueprint.build.drop planned.rva).take
      (max planned.virtualSize planned.content.length) =
        planned.content ++ List.replicate
          (max planned.virtualSize planned.content.length - planned.content.length) 0 :=
    @sits_section _ coherent planned place
      { place := planned.rva, room := max planned.virtualSize planned.content.length
        bytes := planned.content, enough := Nat.le_max_right _ _ }
      (List.getElem?_eq_some_iff.mpr ⟨inside, found⟩) (by simp [PlannedSection.lots])
  have room := planned.size_le
  simp only [PlannedSection.stop] at room
  have cut := congrArg (List.take planned.size) sits
  rw [List.take_take, Nat.min_eq_left (by omega), List.take_append, List.take_replicate,
    Nat.min_eq_left (by omega)] at cut
  exact cut

end Blueprint.Coherent

end Landmark.Image
