import Landmark.Proofs.Checked.Basic
import Landmark.Proofs.Image.Export
import Landmark.Proofs.Image.Grammar

/-! # Reading headers, checked

The readers of headers compute the places they read from and take two kinds of slices as
they are, the signature and the names of sections. Behind the lengths that are checked
first every slice lies in the image, and for a header whose place has 32 bits no sum comes
near the end of the address space.
-/

namespace Landmark

open Image

/-- A result that is come to without a trap. -/
def Guarded.ofResult {ε α : Type} (result : Except ε α) : Guarded ε α := ExceptT.mk (.ok result)

/-- Nothing stops the machine, and it comes to the result. -/
def Comes {ε α : Type} (machine : Guarded ε α) (result : Except ε α) : Prop :=
  machine = .ofResult result

namespace Comes

variable {ε α β : Type} {machine : Guarded ε α} {result : Except ε α}

theorem ofResult (result : Except ε α) : Comes (.ofResult result) result := rfl

theorem pure (a : α) : Comes (Pure.pure a : Guarded ε α) (Pure.pure a) := rfl

theorem throw (cause : ε) : Comes (MonadExcept.throw cause : Guarded ε α) (.error cause) := rfl

/-- What follows only has to come to the same on what the first part can come to. -/
theorem bind {next : α → Guarded ε β} {follow : α → Except ε β} (first : Comes machine result)
    (then_ : ∀ a, result = .ok a → Comes (next a) (follow a)) :
    Comes (machine >>= next) (result >>= follow) := by
  unfold Comes at first
  subst first
  cases result with
  | ok a => exact then_ a rfl
  | error cause => rfl

/-- A step that only the machine takes, and that cannot stop it. -/
theorem checked {step : Checked β} {b : β} {next : β → Guarded ε α} (same : step = .ok b)
    (then_ : Comes (next b) result) : Comes (ExceptT.lift step >>= next) result := by
  rw [same]
  exact then_

theorem branch {condition test : Prop} [Decidable condition] [Decidable test]
    {other : Guarded ε α} {otherResult : Except ε α} (same : condition ↔ test)
    (yes : condition → Comes machine result) (no : ¬condition → Comes other otherResult) :
    Comes (if condition then machine else other) (if test then result else otherResult) := by
  by_cases holds : condition
  · rw [if_pos holds, if_pos (same.mp holds)]
    exact yes holds
  · rw [if_neg holds, if_neg (mt same.mpr holds)]
    exact no holds

/-- A test that fails the computation needs no look at what stands behind it. -/
theorem guard {condition test : Prop} [Decidable condition] [Decidable test] {cause : ε}
    {next : PUnit → Guarded ε α} {follow : PUnit → Except ε α} (same : condition ↔ test)
    (passed : ¬condition → Comes machine result) :
    Comes (if condition then MonadExcept.throw cause >>= next else machine)
      (if test then MonadExcept.throw cause >>= follow else result) :=
  branch same (fun _ => rfl) passed

end Comes

namespace Checked

def mul (a b : Nat) : Checked Nat := if a * b < word then .ok (a * b) else .error .overflow

def slice {α : Type} (row : List α) (first stop : Nat) : Checked (List α) :=
  if first ≤ stop ∧ stop ≤ row.length then .ok ((row.drop first).take (stop - first))
  else .error .slice

theorem mul_eq {a b : Nat} (fits : a * b < word) : mul a b = .ok (a * b) := if_pos fits

theorem slice_eq {α : Type} {row : List α} {first stop : Nat} (ordered : first ≤ stop)
    (inside : stop ≤ row.length) :
    slice row first stop = .ok ((row.drop first).take (stop - first)) := if_pos ⟨ordered, inside⟩

/-- Fails when the bytes end before `stop`. -/
def require (bytes : Bytes) (stop : Nat) : Guarded Fault Unit :=
  .ofResult (Image.require bytes stop)

/-- Reads the word that stands `shift` bytes behind `offset`. The read itself tests its end. -/
def field (bytes : Bytes) (count offset shift : Nat) : Guarded Fault Nat := do
  let place ← ExceptT.lift (add offset shift)
  .ofResult (readWord bytes count place)

def readRow {α : Type} (read : Nat → Guarded Fault α) : Nat → Nat → Guarded Fault (List α)
  | 0, _ => pure []
  | count + 1, first => do
    let entry ← read first
    let later ← readRow read count (first + 1)
    return entry :: later

def readFileHeader (bytes : Bytes) (offset : Nat) : Guarded Fault FileHeader := do
  require bytes (← ExceptT.lift (add offset 20))
  return {
    machine := .ofCode (← field bytes 2 offset 0)
    sectionCount := ← field bytes 2 offset 2
    timestamp := ← field bytes 4 offset 4
    optionalSize := ← field bytes 2 offset 16
    characteristics := ← field bytes 2 offset 18 }

def readImageBase (bytes : Bytes) (layout : Layout) (offset : Nat) : Guarded Fault Nat :=
  match layout with
  | .narrow => field bytes 4 offset 28
  | .wide => field bytes 8 offset 24

def readOptionalHeader (bytes : Bytes) (offset size : Nat) : Guarded Fault OptionalHeader := do
  require bytes (← ExceptT.lift (add offset size))
  if size < 2 then throw (.truncatedHeader 2 size)
  let magic ← field bytes 2 offset 0
  match Layout.ofMagic? magic with
  | none => throw (.unknownMagic magic)
  | some layout =>
    if size < layout.fixedSize then throw (.truncatedHeader layout.fixedSize size)
    return {
      layout
      imageBase := ← readImageBase bytes layout offset
      entryPoint := ← field bytes 4 offset 16
      sectionAlignment := ← field bytes 4 offset 32
      imageSize := ← field bytes 4 offset 56
      headersSize := ← field bytes 4 offset 60
      directoryCount := ← do
        let behind ← ExceptT.lift (add offset layout.fixedSize)
        let place ← ExceptT.lift (sub behind 4)
        .ofResult (readWord bytes 4 place) }

def readDirectory (bytes : Bytes) (offset : Nat) : Guarded Fault Directory := do
  return { rva := ← .ofResult (readWord bytes 4 offset), size := ← field bytes 4 offset 4 }

def readDirectories (bytes : Bytes) (offset count : Nat) : Guarded Fault (List Directory) := do
  let declared := min maxDirectories count
  let found ← readRow (fun slot => do
    let shift ← ExceptT.lift (mul slot 8)
    let place ← ExceptT.lift (add offset shift)
    readDirectory bytes place) declared 0
  return found ++ List.replicate (maxDirectories - declared) .absent

def readHeaders (bytes : Bytes) (offset : Nat) : Guarded Fault Headers := do
  let behind ← ExceptT.lift (add offset 4)
  require bytes behind
  let signature ← ExceptT.lift (slice bytes offset behind)
  if signature ≠ peSignature then throw .missingPeSignature
  let file ← readFileHeader bytes behind
  let optionalAt ← ExceptT.lift (add behind 20)
  let optional ← readOptionalHeader bytes optionalAt file.optionalSize
  let directoriesAt ← ExceptT.lift (add optionalAt optional.layout.fixedSize)
  let directories ← readDirectories bytes directoriesAt optional.directoryCount
  let sectionTable ← ExceptT.lift (add optionalAt file.optionalSize)
  return { file, optional, directories, sectionTable }

def readSectionHeader (bytes : Bytes) (offset : Nat) : Guarded Fault SectionHeader := do
  let behind ← ExceptT.lift (add offset 8)
  let rawName ← ExceptT.lift (slice bytes offset behind)
  return {
    rawName
    virtualSize := ← field bytes 4 offset 8
    rva := ← field bytes 4 offset 12
    rawSize := ← field bytes 4 offset 16
    characteristics := ← field bytes 4 offset 36 }

def readSections (bytes : Bytes) (offset count : Nat) : Guarded Fault (List SectionHeader) := do
  let size ← ExceptT.lift (mul count sectionHeaderSize)
  require bytes (← ExceptT.lift (add offset size))
  readRow (fun number => do
    let shift ← ExceptT.lift (mul number sectionHeaderSize)
    let place ← ExceptT.lift (add offset shift)
    readSectionHeader bytes place) count 0

def readOutline (bytes : Bytes) (dos : DosHeader) : Guarded Fault Outline := do
  let headers ← readHeaders bytes dos.nextHeader
  let sections ← readSections bytes headers.sectionTable headers.file.sectionCount
  return { headers, sections }

variable {bytes : Bytes} {offset count : Nat}

theorem le_of_require {stop : Nat} {done : Unit} (passed : Image.require bytes stop = .ok done) :
    stop ≤ bytes.length := by
  by_contra past
  cases (require_of_past (Nat.lt_of_not_le past)).symm.trans passed

/-- Sizes and counts that are read from two bytes are small. -/
theorem small_of_readFileHeader {file : FileHeader}
    (read : Image.readFileHeader bytes offset = .ok file) :
    file.optionalSize < 0x10000 ∧ file.sectionCount < 0x10000 := by
  obtain ⟨_, _, read⟩ := bind_eq_ok.mp read
  obtain ⟨_, _, read⟩ := bind_eq_ok.mp read
  obtain ⟨number, counted, read⟩ := bind_eq_ok.mp read
  obtain ⟨_, _, read⟩ := bind_eq_ok.mp read
  obtain ⟨size, measured, read⟩ := bind_eq_ok.mp read
  obtain ⟨_, _, read⟩ := bind_eq_ok.mp read
  obtain rfl := Except.ok.inj read
  exact ⟨lt_of_readWord measured, lt_of_readWord counted⟩

theorem small_of_readHeaders {headers : Headers}
    (read : Image.readHeaders bytes offset = .ok headers) :
    headers.sectionTable < offset + 24 + 0x10000 ∧ headers.file.sectionCount < 0x10000 := by
  obtain ⟨_, _, read⟩ := bind_eq_ok.mp read
  split at read
  · cases read
  · obtain ⟨file, found, read⟩ := bind_eq_ok.mp read
    obtain ⟨_, _, read⟩ := bind_eq_ok.mp read
    obtain ⟨_, _, read⟩ := bind_eq_ok.mp read
    obtain rfl := Except.ok.inj read
    obtain ⟨size, number⟩ := small_of_readFileHeader found
    exact ⟨Nat.add_lt_add_left size _, number⟩

theorem field_comes {shift : Nat} (fits : offset + shift < word) :
    Comes (field bytes count offset shift) (readWord bytes count (offset + shift)) :=
  .checked (add_eq fits) (.ofResult _)

theorem readRow_comes {α : Type} {read : Nat → Guarded Fault α} {plain : Nat → Except Fault α}
    {first : Nat} (all : ∀ place, first ≤ place → place < first + count →
      Comes (read place) (plain place)) :
    Comes (readRow read count first) (Image.readRow plain count first) := by
  induction count generalizing first with
  | zero => rfl
  | succ count ih =>
    refine .bind (all first (Nat.le_refl _) (by omega)) fun entry _ => ?_
    exact .bind (ih fun place above below => all place (by omega) (by omega)) fun _ _ => .pure _

theorem readFileHeader_comes (low : offset + 20 < word) :
    Comes (readFileHeader bytes offset) (Image.readFileHeader bytes offset) := by
  refine .checked (add_eq low) (.bind (.ofResult _) fun _ _ => ?_)
  refine .bind (field_comes (by omega)) fun _ _ => .bind (field_comes (by omega)) fun _ _ => ?_
  refine .bind (field_comes (by omega)) fun _ _ => .bind (field_comes (by omega)) fun _ _ => ?_
  exact .bind (field_comes (by omega)) fun _ _ => .pure _

theorem readImageBase_comes {layout : Layout} (low : offset + 32 < word) :
    Comes (readImageBase bytes layout offset) (Image.readImageBase bytes layout offset) := by
  cases layout with
  | narrow => exact field_comes (by omega)
  | wide => exact field_comes (by omega)

theorem readOptionalHeader_comes {size : Nat} (small : size < 0x10000)
    (low : offset + 0x10000 < word) :
    Comes (readOptionalHeader bytes offset size)
      (Image.readOptionalHeader bytes offset size) := by
  refine .checked (add_eq (by omega)) (.bind (.ofResult _) fun _ _ => ?_)
  refine .guard .rfl fun large => ?_
  refine .bind (field_comes (by omega)) fun magic _ => ?_
  cases Layout.ofMagic? magic with
  | none => exact .throw _
  | some layout =>
    have least := layout.fixedSize_bounds
    refine .guard .rfl fun room => ?_
    refine .bind (readImageBase_comes (by omega)) fun _ _ => ?_
    refine .bind (field_comes (by omega)) fun _ _ => .bind (field_comes (by omega)) fun _ _ => ?_
    refine .bind (field_comes (by omega)) fun _ _ => .bind (field_comes (by omega)) fun _ _ => ?_
    refine .checked (add_eq (by omega)) (.checked (sub_eq (by omega)) ?_)
    exact .bind (.ofResult _) fun _ _ => .pure _

theorem readDirectories_comes (low : offset + 0x1000 < word) :
    Comes (readDirectories bytes offset count) (Image.readDirectories bytes offset count) := by
  refine .bind (readRow_comes fun slot _ below => ?_) fun _ _ => .pure _
  have few : slot < maxDirectories := by omega
  unfold maxDirectories at few
  refine .checked (mul_eq (by omega)) (.checked (add_eq (by omega)) ?_)
  exact .bind (.ofResult _) fun _ _ => .bind (field_comes (by omega)) fun _ _ => .pure _

theorem readHeaders_comes (low : offset + 0x100000 < word) :
    Comes (readHeaders bytes offset) (Image.readHeaders bytes offset) := by
  refine .checked (add_eq (by omega)) (.bind (.ofResult _) fun _ checked => ?_)
  have fits := le_of_require checked
  have sliced : bytes.slice? offset 4 = some ((bytes.drop offset).take 4) :=
    Bytes.slice?_eq_some_iff.mpr ⟨fits, rfl⟩
  have signature : slice bytes offset (offset + 4) = .ok ((bytes.drop offset).take 4) := by
    rw [slice_eq (Nat.le_add_right _ _) fits, Nat.add_sub_cancel_left]
  refine .checked signature (.guard ?_ fun _ => ?_)
  · rw [sliced, ne_eq, ne_eq, Option.some.injEq]
  refine .bind (readFileHeader_comes (by omega)) fun file read => ?_
  have small := (small_of_readFileHeader read).1
  refine .checked (add_eq (by omega)) (.bind (readOptionalHeader_comes small (by omega)) ?_)
  intro optional _
  have most := optional.layout.fixedSize_bounds
  refine .checked (add_eq (by omega)) (.bind (readDirectories_comes (by omega)) fun _ _ => ?_)
  exact .checked (add_eq (by omega)) (.pure _)

theorem readSections_comes (low : offset + 40 * count + 40 < word) :
    Comes (readSections bytes offset count) (Image.readSections bytes offset count) := by
  have size : count * sectionHeaderSize = 40 * count := Nat.mul_comm _ _
  refine .checked (mul_eq (by omega)) (.checked (add_eq (by omega)) ?_)
  refine .bind (.ofResult _) fun _ whole => readRow_comes fun number _ below => ?_
  have fits := le_of_require whole
  have shift : number * sectionHeaderSize = 40 * number := Nat.mul_comm _ _
  refine .checked (mul_eq (by omega)) (.checked (add_eq (by omega)) ?_)
  have name : slice bytes (offset + number * sectionHeaderSize)
      (offset + number * sectionHeaderSize + 8) =
        .ok ((bytes.drop (offset + number * sectionHeaderSize)).take 8) := by
    rw [slice_eq (Nat.le_add_right _ _) (by omega), Nat.add_sub_cancel_left]
  refine .checked (add_eq (by omega)) (.checked name ?_)
  refine .bind (field_comes (by omega)) fun _ _ => .bind (field_comes (by omega)) fun _ _ => ?_
  exact .bind (field_comes (by omega)) fun _ _ => .bind (field_comes (by omega)) fun _ _ => .pure _

/-- No reader of headers is stopped, whatever the bytes are. -/
theorem readOutline_comes {dos : DosHeader} (low : dos.nextHeader < 0x100000000) :
    Comes (readOutline bytes dos) (Image.readOutline bytes dos) := by
  have near : dos.nextHeader + 0x1000000 < word := by
    unfold word
    omega
  refine .bind (readHeaders_comes (by omega)) fun headers read => ?_
  have small := small_of_readHeaders read
  refine .bind (readSections_comes (by omega)) fun _ _ => .pure _

end Checked

end Landmark
