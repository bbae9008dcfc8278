import Landmark.Image.View
import Landmark.Proofs.Image.Reads

/-! # The grammar of headers

Whether the headers at a place can be read is a matter of nine conditions, which are
written down here in one row without the reader. Each says what is wrong when it fails, and
of several that fail the first decides. When none fails, every field is the number at its
place in the layout.
-/

namespace Landmark.Image

variable {bytes : Bytes} {start offset count : Nat}

/-- Something that has to hold, and what is wrong if it does not. -/
structure Condition where
  holds : Bool
  otherwise : Fault

/-- What is wrong first, if anything is. -/
def firstFailing (conditions : List Condition) : Option Fault :=
  (conditions.find? fun condition => !condition.holds).map Condition.otherwise

/-- The value when every condition holds, and what is wrong first otherwise. -/
def judged {α : Type} (conditions : List Condition) (value : α) : Except Fault α :=
  match firstFailing conditions with
  | none => .ok value
  | some fault => .error fault

theorem firstFailing_cons_of_holds {condition : Condition} (holds : condition.holds = true)
    (rest : List Condition) : firstFailing (condition :: rest) = firstFailing rest := by
  simp [firstFailing, holds]

theorem firstFailing_cons_of_fails {condition : Condition} (fails : condition.holds = false)
    (rest : List Condition) :
    firstFailing (condition :: rest) = some condition.otherwise := by
  simp [firstFailing, fails]

theorem firstFailing_eq_none_iff {conditions : List Condition} :
    firstFailing conditions = none ↔ ∀ condition ∈ conditions, condition.holds = true := by
  simp [firstFailing]

theorem judged_eq_ok_iff {α : Type} {conditions : List Condition} {value other : α} :
    judged conditions value = .ok other ↔
      (∀ condition ∈ conditions, condition.holds = true) ∧ other = value := by
  rw [← firstFailing_eq_none_iff, judged]
  cases firstFailing conditions <;> simp [eq_comm]

theorem judged_eq_error_iff {α : Type} {conditions : List Condition} {value : α} {fault : Fault} :
    judged conditions value = .error fault ↔ firstFailing conditions = some fault := by
  rw [judged]
  cases firstFailing conditions <;> simp

theorem judged_cons_of_holds {α : Type} {condition : Condition} (holds : condition.holds = true)
    (rest : List Condition) (value : α) :
    judged (condition :: rest) value = judged rest value := by
  rw [judged, firstFailing_cons_of_holds holds]
  rfl

theorem judged_cons_of_fails {α : Type} {condition : Condition} (fails : condition.holds = false)
    (rest : List Condition) (value : α) :
    judged (condition :: rest) value = .error condition.otherwise := by
  rw [judged, firstFailing_cons_of_fails fails]

theorem judged_append {α : Type} (front behind : List Condition) (value : α) :
    judged (front ++ behind) value = judged front () >>= fun _ => judged behind value := by
  simp only [judged, firstFailing, List.find?_append]
  cases front.find? fun condition => !condition.holds <;> rfl

theorem judged_bind {α β : Type} (conditions : List Condition) (value : α)
    (next : α → Except Fault β) :
    judged conditions value >>= next = judged conditions () >>= fun _ => next value := by
  unfold judged
  cases firstFailing conditions <;> rfl

/-! ## What stands where -/

/-- The size that the real header at `start` declares for the optional header. -/
def optionalSizeAt (bytes : Bytes) (start : Nat) : Nat := bytes.field 2 (start + 20)

def magicAt (bytes : Bytes) (start : Nat) : Nat := bytes.field 2 (start + 24)

def layoutAt (bytes : Bytes) (start : Nat) : Layout :=
  (Layout.ofMagic? (magicAt bytes start)).getD .narrow

def directoriesAt (bytes : Bytes) (start : Nat) : Nat :=
  start + 24 + (layoutAt bytes start).fixedSize

/-- How many directories are read. -/
def declaredAt (bytes : Bytes) (start : Nat) : Nat :=
  min maxDirectories (bytes.field 4 (directoriesAt bytes start - 4))

def tableAt (bytes : Bytes) (start : Nat) : Nat := start + 24 + optionalSizeAt bytes start

def sectionCountAt (bytes : Bytes) (start : Nat) : Nat := bytes.field 2 (start + 6)

/-- Where the first of the words from `offset` on stands that is not all there. -/
def firstMissingWord (bytes : Bytes) (offset : Nat) : Nat :=
  offset + 4 * ((bytes.length - offset) / 4)

/-- What has to hold of the signature and the header behind it. -/
def signatureGrammar (bytes : Bytes) (start : Nat) : List Condition :=
  [ { holds := start + 4 ≤ bytes.length
      otherwise := .truncatedHeader (start + 4) bytes.length },
    { holds := (bytes.drop start).take 4 = peSignature, otherwise := .missingPeSignature },
    { holds := start + 24 ≤ bytes.length
      otherwise := .truncatedHeader (start + 24) bytes.length } ]

def optionalGrammar (bytes : Bytes) (start : Nat) : List Condition :=
  let size := optionalSizeAt bytes start
  let magic := magicAt bytes start
  let fixed := (layoutAt bytes start).fixedSize
  [ { holds := start + 24 + size ≤ bytes.length
      otherwise := .truncatedHeader (start + 24 + size) bytes.length },
    { holds := 2 ≤ size, otherwise := .truncatedHeader 2 size },
    { holds := magic = 0x10B ∨ magic = 0x20B, otherwise := .unknownMagic magic },
    { holds := fixed ≤ size, otherwise := .truncatedHeader fixed size } ]

def tableGrammar (bytes : Bytes) (start : Nat) : List Condition :=
  let directories := directoriesAt bytes start
  let stop := tableAt bytes start + 40 * sectionCountAt bytes start
  [ { holds := directories + 8 * declaredAt bytes start ≤ bytes.length
      otherwise := .pastEnd (firstMissingWord bytes directories) },
    { holds := stop ≤ bytes.length, otherwise := .truncatedHeader stop bytes.length } ]

/-- The conditions for headers at `start`, in their order. -/
def grammar (bytes : Bytes) (start : Nat) : List Condition :=
  signatureGrammar bytes start ++ optionalGrammar bytes start ++ tableGrammar bytes start

/-! ## What the headers say -/

/-- The header with the machine, at `start`. -/
def fileHeaderAt (bytes : Bytes) (start : Nat) : FileHeader where
  machine := .ofCode (bytes.field 2 (start + 4))
  sectionCount := sectionCountAt bytes start
  timestamp := bytes.field 4 (start + 8)
  optionalSize := optionalSizeAt bytes start
  characteristics := bytes.field 2 (start + 22)

def imageBaseAt (bytes : Bytes) (offset : Nat) : Layout → Nat
  | .narrow => bytes.field 4 (offset + 28)
  | .wide => bytes.field 8 (offset + 24)

def optionalHeaderAt (bytes : Bytes) (start : Nat) : OptionalHeader where
  layout := layoutAt bytes start
  entryPoint := bytes.field 4 (start + 24 + 16)
  imageBase := imageBaseAt bytes (start + 24) (layoutAt bytes start)
  sectionAlignment := bytes.field 4 (start + 24 + 32)
  imageSize := bytes.field 4 (start + 24 + 56)
  headersSize := bytes.field 4 (start + 24 + 60)
  directoryCount := bytes.field 4 (directoriesAt bytes start - 4)

def directoryAt (bytes : Bytes) (offset slot : Nat) : Directory where
  rva := bytes.field 4 (offset + slot * 8)
  size := bytes.field 4 (offset + slot * 8 + 4)

/-- The sixteen directories; those that are not declared are absent. -/
def directoryRowAt (bytes : Bytes) (start : Nat) : List Directory :=
  (List.range maxDirectories).map fun slot =>
    if slot < declaredAt bytes start then directoryAt bytes (directoriesAt bytes start) slot
    else .absent

def sectionHeaderAt (bytes : Bytes) (offset : Nat) : SectionHeader where
  rawName := (bytes.drop offset).take 8
  virtualSize := bytes.field 4 (offset + 8)
  rva := bytes.field 4 (offset + 12)
  rawSize := bytes.field 4 (offset + 16)
  characteristics := bytes.field 4 (offset + 36)

def outlineAt (bytes : Bytes) (start : Nat) : Outline where
  headers := {
    file := fileHeaderAt bytes start
    optional := optionalHeaderAt bytes start
    directories := directoryRowAt bytes start
    sectionTable := tableAt bytes start }
  sections := (List.range (sectionCountAt bytes start)).map fun number =>
    sectionHeaderAt bytes (tableAt bytes start + number * 40)

/-! ## The readers -/

theorem require_of_fits {stop : Nat} (fits : stop ≤ bytes.length) :
    require bytes stop = .ok () := if_pos fits

theorem require_of_past {stop : Nat} (past : bytes.length < stop) :
    require bytes stop = .error (.truncatedHeader stop bytes.length) :=
  if_neg (Nat.not_le.mpr past)

theorem readFileHeader_of_fits (fits : start + 24 ≤ bytes.length) :
    readFileHeader bytes (start + 4) = .ok (fileHeaderAt bytes start) := by
  unfold readFileHeader
  rw [require_of_fits fits, ok_bind]
  simp (disch := omega) only [readWord_of_fits, ok_bind, Nat.add_assoc]
  rfl

theorem readImageBase_of_fits {layout : Layout} (fits : offset + 32 ≤ bytes.length) :
    readImageBase bytes layout offset = .ok (imageBaseAt bytes offset layout) := by
  cases layout with
  | narrow => exact readWord_of_fits (by omega)
  | wide => exact readWord_of_fits (by omega)

theorem Layout.fixedSize_bounds (layout : Layout) :
    96 ≤ layout.fixedSize ∧ layout.fixedSize ≤ 112 := by
  cases layout <;> decide

theorem Layout.ofMagic?_eq_some_iff {magic : Nat} {layout : Layout} :
    Layout.ofMagic? magic = some layout ↔ magic = layout.magic := by
  unfold Layout.ofMagic?
  cases layout <;> simp only [Layout.magic] <;> split <;> simp_all

theorem readDirectory_of_fits (fits : offset + 8 ≤ bytes.length) :
    readDirectory bytes offset =
      .ok { rva := bytes.field 4 offset, size := bytes.field 4 (offset + 4) } := by
  unfold readDirectory
  simp (disch := omega) only [readWord_of_fits, ok_bind]
  rfl

theorem readDirectory_of_past (past : bytes.length < offset + 8) (inside : offset ≤ bytes.length) :
    readDirectory bytes offset = .error (.pastEnd (firstMissingWord bytes offset)) := by
  unfold readDirectory firstMissingWord
  by_cases first : offset + 4 ≤ bytes.length
  · have one : (bytes.length - offset) / 4 = 1 := by omega
    rw [readWord_of_fits first, ok_bind, readWord_of_past (by omega), one]
    rfl
  · have none : (bytes.length - offset) / 4 = 0 := by omega
    rw [readWord_of_past (by omega), none]
    rfl

theorem readDirectories_of_fits
    (fits : offset + 8 * min maxDirectories count ≤ bytes.length) :
    readDirectories bytes offset count =
      .ok ((List.range maxDirectories).map fun slot =>
        if slot < min maxDirectories count then directoryAt bytes offset slot else .absent) := by
  have row : readRow (fun slot => readDirectory bytes (offset + slot * 8))
      (min maxDirectories count) 0 =
        .ok ((List.range' 0 (min maxDirectories count)).map (directoryAt bytes offset)) :=
    readRow_of_forall fun place _ below => readDirectory_of_fits (by omega)
  unfold readDirectories
  dsimp only
  rw [row, ok_bind]
  refine congrArg Except.ok (List.ext_getElem ?_ fun slot left right => ?_)
  · simp only [List.length_append, List.length_map, List.length_range', List.length_replicate,
      List.length_range]
    omega
  by_cases declared : slot < min maxDirectories count
  · have front : slot < ((List.range' 0 (min maxDirectories count)).map
        (directoryAt bytes offset)).length := by
      rwa [List.length_map, List.length_range']
    simp only [List.getElem_append_left front, List.getElem_map, List.getElem_range',
      List.getElem_range, if_pos declared, Nat.one_mul, Nat.zero_add]
  · have behind : ((List.range' 0 (min maxDirectories count)).map
        (directoryAt bytes offset)).length ≤ slot := by
      rw [List.length_map, List.length_range']
      exact Nat.le_of_not_lt declared
    simp only [List.getElem_append_right behind, List.getElem_replicate, List.getElem_map,
      List.getElem_range, if_neg declared]

theorem readDirectories_of_past (inside : offset ≤ bytes.length)
    (past : bytes.length < offset + 8 * min maxDirectories count) :
    readDirectories bytes offset count =
      .error (.pastEnd (firstMissingWord bytes offset)) := by
  -- The slot that is cut off is the one in which the bytes end.
  have cut := @readDirectory_of_past bytes (offset + (bytes.length - offset) / 8 * 8)
    (by omega) (by omega)
  have word : firstMissingWord bytes (offset + (bytes.length - offset) / 8 * 8) =
      firstMissingWord bytes offset := by
    unfold firstMissingWord
    omega
  rw [word] at cut
  have row := @readRow_of_error (min maxDirectories count) _
    (fun slot => readDirectory bytes (offset + slot * 8)) (directoryAt bytes offset) 0
    ((bytes.length - offset) / 8) _ (Nat.zero_le _) (by omega)
    (fun other _ below => readDirectory_of_fits (by omega)) cut
  unfold readDirectories
  dsimp only
  rw [row]
  rfl

theorem readSections_of_fits (fits : offset + 40 * count ≤ bytes.length) :
    readSections bytes offset count =
      .ok ((List.range count).map fun number => sectionHeaderAt bytes (offset + number * 40)) := by
  have row : readRow (fun i => readSectionHeader bytes (offset + i * sectionHeaderSize)) count 0 =
      .ok ((List.range' 0 count).map fun number =>
        sectionHeaderAt bytes (offset + number * 40)) := by
    refine readRow_of_forall fun place _ below => ?_
    unfold readSectionHeader sectionHeaderSize
    simp (disch := omega) only [readWord_of_fits, ok_bind]
    rfl
  unfold readSections
  rw [require_of_fits (by unfold sectionHeaderSize; omega), ok_bind, row, List.range_eq_range']

theorem readSections_of_past (past : bytes.length < offset + 40 * count) :
    readSections bytes offset count =
      .error (.truncatedHeader (offset + 40 * count) bytes.length) := by
  unfold readSections sectionHeaderSize
  rw [Nat.mul_comm count, require_of_past past]
  rfl

section Optional

variable {size : Nat} {layout : Layout}

theorem readOptionalHeader_of_small (fits : offset + size ≤ bytes.length) (small : size < 2) :
    readOptionalHeader bytes offset size = .error (.truncatedHeader 2 size) := by
  unfold readOptionalHeader
  rw [require_of_fits fits, ok_bind, if_pos small]
  rfl

variable (fits : offset + size ≤ bytes.length) (large : 2 ≤ size)
include fits large

theorem readOptionalHeader_of_unknown
    (unknown : Layout.ofMagic? (bytes.field 2 offset) = none) :
    readOptionalHeader bytes offset size =
      .error (.unknownMagic (bytes.field 2 offset)) := by
  unfold readOptionalHeader
  rw [require_of_fits fits, ok_bind, if_neg (by omega), readWord_of_fits (by omega), ok_bind,
    unknown]
  rfl

variable (known : Layout.ofMagic? (bytes.field 2 offset) = some layout)
include known

theorem readOptionalHeader_of_short (short : size < layout.fixedSize) :
    readOptionalHeader bytes offset size = .error (.truncatedHeader layout.fixedSize size) := by
  unfold readOptionalHeader
  rw [require_of_fits fits, ok_bind, if_neg (by omega), readWord_of_fits (by omega), ok_bind,
    known]
  dsimp only
  rw [if_pos short]
  rfl

theorem readOptionalHeader_of_fits (room : layout.fixedSize ≤ size) :
    readOptionalHeader bytes offset size = .ok {
      layout
      entryPoint := bytes.field 4 (offset + 16)
      imageBase := imageBaseAt bytes offset layout
      sectionAlignment := bytes.field 4 (offset + 32)
      imageSize := bytes.field 4 (offset + 56)
      headersSize := bytes.field 4 (offset + 60)
      directoryCount := bytes.field 4 (offset + layout.fixedSize - 4) } := by
  have least := layout.fixedSize_bounds
  unfold readOptionalHeader
  rw [require_of_fits fits, ok_bind, if_neg (by omega), readWord_of_fits (by omega), ok_bind,
    known]
  dsimp only
  rw [if_neg (by omega), readImageBase_of_fits (by omega)]
  simp (disch := omega) only [readWord_of_fits, ok_bind]
  rfl

end Optional

/-- The reader of the optional header keeps its part of the grammar. -/
theorem readOptionalHeader_eq (bytes : Bytes) (start : Nat) :
    readOptionalHeader bytes (start + 24) (optionalSizeAt bytes start) =
      judged (optionalGrammar bytes start) (optionalHeaderAt bytes start) := by
  unfold optionalGrammar
  dsimp only
  by_cases whole : start + 24 + optionalSizeAt bytes start ≤ bytes.length
  case neg =>
    rw [judged_cons_of_fails (by simpa using whole), readOptionalHeader,
      require_of_past (by omega)]
    rfl
  rw [judged_cons_of_holds (by simpa using whole)]
  by_cases large : 2 ≤ optionalSizeAt bytes start
  case neg =>
    rw [judged_cons_of_fails (by simpa using large),
      readOptionalHeader_of_small whole (by omega)]
  rw [judged_cons_of_holds (by simpa using large)]
  cases known : Layout.ofMagic? (magicAt bytes start) with
  | none =>
    have neither : ¬(magicAt bytes start = 0x10B ∨ magicAt bytes start = 0x20B) := fun either =>
      either.elim (fun narrow => nomatch narrow ▸ known) (fun wide => nomatch wide ▸ known)
    rw [judged_cons_of_fails (by simpa using neither),
      readOptionalHeader_of_unknown whole large known]
    rfl
  | some layout =>
    have either : magicAt bytes start = 0x10B ∨ magicAt bytes start = 0x20B := by
      have magic := Layout.ofMagic?_eq_some_iff.mp known
      cases layout with
      | narrow => exact .inl magic
      | wide => exact .inr magic
    obtain rfl : layoutAt bytes start = layout := by rw [layoutAt, known, Option.getD_some]
    rw [judged_cons_of_holds (by simpa using either)]
    by_cases room : (layoutAt bytes start).fixedSize ≤ optionalSizeAt bytes start
    case neg =>
      rw [judged_cons_of_fails (by simpa using room),
        readOptionalHeader_of_short whole large known (by omega)]
    rw [judged_cons_of_holds (by simpa using room),
      readOptionalHeader_of_fits whole large known room]
    rfl

/-- Where the optional header is as it should be, its directories begin inside the image. -/
theorem directoriesAt_le
    (held : ∀ condition ∈ optionalGrammar bytes start, condition.holds = true) :
    directoriesAt bytes start ≤ bytes.length := by
  simp only [optionalGrammar, List.mem_cons, List.not_mem_nil, or_false, forall_eq_or_imp,
    forall_eq, decide_eq_true_eq] at held
  unfold directoriesAt
  omega

/-! ## Headers and table -/

theorem readHeaders_of_signed (fits : start + 4 ≤ bytes.length)
    (signed : (bytes.drop start).take 4 = peSignature) :
    readHeaders bytes start = (do
      let file ← readFileHeader bytes (start + 4)
      let optional ← readOptionalHeader bytes (start + 24) file.optionalSize
      let directories ←
        readDirectories bytes (start + 24 + optional.layout.fixedSize) optional.directoryCount
      return { file, optional, directories, sectionTable := start + 24 + file.optionalSize }) := by
  have sliced : bytes.slice? start 4 = some peSignature :=
    Bytes.slice?_eq_some_iff.mpr ⟨fits, signed.symm⟩
  unfold readHeaders
  rw [require_of_fits fits, ok_bind]
  exact if_neg fun differs => differs sliced

theorem readTables_eq (inside : directoriesAt bytes start ≤ bytes.length) :
    (do
      let directories ← readDirectories bytes
        (start + 24 + (optionalHeaderAt bytes start).layout.fixedSize)
        (optionalHeaderAt bytes start).directoryCount
      let sections ← readSections bytes (start + 24 + (fileHeaderAt bytes start).optionalSize)
        (fileHeaderAt bytes start).sectionCount
      return ({
        headers := {
          file := fileHeaderAt bytes start
          optional := optionalHeaderAt bytes start
          directories
          sectionTable := start + 24 + (fileHeaderAt bytes start).optionalSize }
        sections } : Outline)) =
      judged (tableGrammar bytes start) (outlineAt bytes start) := by
  have directories : start + 24 + (optionalHeaderAt bytes start).layout.fixedSize =
      directoriesAt bytes start := rfl
  have declared : (optionalHeaderAt bytes start).directoryCount =
      bytes.field 4 (directoriesAt bytes start - 4) := rfl
  have table : start + 24 + (fileHeaderAt bytes start).optionalSize = tableAt bytes start := rfl
  have number : (fileHeaderAt bytes start).sectionCount = sectionCountAt bytes start := rfl
  rw [directories, declared, table, number]
  unfold tableGrammar
  dsimp only
  by_cases room : directoriesAt bytes start + 8 * declaredAt bytes start ≤ bytes.length
  case neg =>
    rw [judged_cons_of_fails (by simpa using room),
      readDirectories_of_past inside (Nat.lt_of_not_le room)]
    rfl
  rw [judged_cons_of_holds (by simpa using room), readDirectories_of_fits room, ok_bind]
  by_cases whole : tableAt bytes start + 40 * sectionCountAt bytes start ≤ bytes.length
  case neg =>
    rw [judged_cons_of_fails (by simpa using whole),
      readSections_of_past (Nat.lt_of_not_le whole)]
    rfl
  rw [judged_cons_of_holds (by simpa using whole), readSections_of_fits whole]
  rfl

/-- The reader of headers keeps the grammar. -/
theorem readOutline_eq (bytes : Bytes) (dos : DosHeader) :
    readOutline bytes dos =
      judged (grammar bytes dos.nextHeader) (outlineAt bytes dos.nextHeader) := by
  -- The conditions are taken in the order of the reader, which stops at the first that fails.
  obtain ⟨magic, start⟩ := dos
  unfold readOutline grammar
  dsimp only
  rw [List.append_assoc]
  unfold signatureGrammar
  dsimp only [List.cons_append, List.nil_append]
  by_cases signature : start + 4 ≤ bytes.length
  case neg =>
    rw [judged_cons_of_fails (by simpa using signature), readHeaders,
      require_of_past (by omega)]
    rfl
  rw [judged_cons_of_holds (by simpa using signature)]
  by_cases signed : (bytes.drop start).take 4 = peSignature
  case neg =>
    have differs : bytes.slice? start 4 ≠ some peSignature := fun sliced =>
      signed (Bytes.slice?_eq_some_iff.mp sliced).2.symm
    rw [judged_cons_of_fails (by simpa using signed), readHeaders,
      require_of_fits signature, ok_bind, if_pos differs]
    rfl
  rw [judged_cons_of_holds (by simpa using signed), readHeaders_of_signed signature signed]
  by_cases file : start + 24 ≤ bytes.length
  case neg =>
    rw [judged_cons_of_fails (by simpa using file), readFileHeader,
      require_of_past (by omega)]
    rfl
  rw [judged_cons_of_holds (by simpa using file), readFileHeader_of_fits file, ok_bind]
  have optional : readOptionalHeader bytes (start + 24) (fileHeaderAt bytes start).optionalSize =
      _ := readOptionalHeader_eq bytes start
  rw [optional]
  rw [bind_assoc, judged_append, judged_bind]
  cases held : judged (optionalGrammar bytes start) () with
  | error fault => rw [error_bind, error_bind]
  | ok done =>
    have inside := directoriesAt_le (judged_eq_ok_iff.mp held).1
    simp only [ok_bind, bind_assoc, pure_bind]
    exact readTables_eq inside

theorem readOutline_eq_ok_iff {dos : DosHeader} {outline : Outline} :
    readOutline bytes dos = .ok outline ↔
      (∀ condition ∈ grammar bytes dos.nextHeader, condition.holds = true) ∧
        outline = outlineAt bytes dos.nextHeader := by
  rw [readOutline_eq, judged_eq_ok_iff]

theorem mappedSize_lt_of_readOutline {dos : DosHeader} {outline : Outline} {header : SectionHeader}
    (read : readOutline bytes dos = .ok outline) (member : header ∈ outline.sections) :
    header.mappedSize < 2 ^ 32 := by
  obtain ⟨_, rfl⟩ := readOutline_eq_ok_iff.mp read
  obtain ⟨number, _, rfl⟩ := List.mem_map.mp member
  unfold SectionHeader.mappedSize
  split
  · exact bytes.field_lt 4 _
  · exact bytes.field_lt 4 _

end Landmark.Image
