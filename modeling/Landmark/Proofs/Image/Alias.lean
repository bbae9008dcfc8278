import Landmark.Proofs.Image.Listing

/-! # Exports of several names

A function may be named by several slots, and the export that is made of it has the name in the
last of them. So a name leads to its function from the last of these slots only. From any other
slot it leads nowhere, even where no other export has that name.
-/

namespace Landmark.Image

variable {bytes : Bytes} {place : Directory} {limit number slot : Nat} {name : String}
  {directory : ExportDirectory} {table : ExportTable}

instance (bytes : Bytes) (offset limit : Nat) (text : String) :
    Decidable (TextAt bytes offset limit text) :=
  inferInstanceAs (Decidable (_ ∧ _ ∧ _))

namespace ExportDirectory

/-- A slot gives a name that no other slot gives. -/
structure NamesAlone (directory : ExportDirectory) (bytes : Bytes) (slot : Nat) (name : String) :
    Prop where
  counted : slot < directory.nameCount
  used : directory.nameAt bytes slot ≠ 0
  text : TextAt bytes (directory.nameAt bytes slot) 512 name
  alone : ∀ other < directory.nameCount, directory.nameAt bytes other ≠ 0 →
    TextAt bytes (directory.nameAt bytes other) 512 name → other = slot

/-- The function that has such a name is the one that its slot names last. -/
theorem NamesAlone.nameOf_eq_some_iff (alone : directory.NamesAlone bytes slot name)
    (readable : ∀ slot < directory.nameCount, directory.NameReadable bytes slot) :
    nameOf (directory.named bytes) number = some name ↔ directory.NamesLast bytes number slot := by
  rw [nameOf_named_eq_some_iff readable]
  constructor
  · rintro ⟨other, last, here⟩
    obtain rfl := alone.alone other last.names.counted last.names.used here
    exact last
  · intro last
    exact ⟨slot, last, alone.text⟩

end ExportDirectory

/-- Which names of a directory lead to a function. -/
structure KeepsNames (bytes : Bytes) (directory : ExportDirectory) (table : ExportTable) :
    Prop where
  /-- From the last slot that names a used function, the name leads to it. -/
  found : ∀ slot name, directory.NamesAlone bytes slot name →
    directory.numberAt bytes slot ∈ directory.usedNumbers bytes →
    directory.NamesLast bytes (directory.numberAt bytes slot) slot →
    ∃ entry, table.find? name = some entry ∧
      entry.rva = directory.functionAt bytes (directory.numberAt bytes slot)
  /-- From a slot in front of another that names the same function, it leads nowhere. -/
  lost : ∀ slot name, directory.NamesAlone bytes slot name →
    ¬directory.NamesLast bytes (directory.numberAt bytes slot) slot → table.find? name = none
  /-- No function that is used loses all its names. -/
  named : ∀ number ∈ directory.usedNumbers bytes, ∀ slot, directory.Names bytes number slot →
    ∃ last name entry, directory.NamesLast bytes number last ∧
      TextAt bytes (directory.nameAt bytes last) 512 name ∧ entry ∈ table.entries ∧
      entry.name = some name ∧ entry.rva = directory.functionAt bytes number

theorem keepsNames_exportTableAt (readable : ExportsReadable bytes place limit) :
    KeepsNames bytes (exportDirectoryAt bytes place.rva limit)
      (exportTableAt bytes place limit) := by
  have lists := listsExports_exportTableAt readable
  have entry_iff : ∀ entry, entry ∈ (exportTableAt bytes place limit).entries ↔
      ∃ number ∈ (exportDirectoryAt bytes place.rva limit).usedNumbers bytes,
        exportAt bytes place (exportDirectoryAt bytes place.rva limit)
          ((exportDirectoryAt bytes place.rva limit).named bytes) number = entry :=
    fun _ => List.mem_map
  refine { found := ?_, lost := ?_, named := ?_ }
  · intro slot name alone used last
    refine ⟨_, (lists.found name _).mpr
      ⟨(entry_iff _).mpr ⟨_, used, rfl⟩, (alone.nameOf_eq_some_iff readable.names).mpr last, ?_⟩,
      rfl⟩
    intro other member same
    obtain ⟨number, _, rfl⟩ := (entry_iff other).mp member
    have again := (alone.nameOf_eq_some_iff readable.names).mp same
    obtain rfl := again.names.number
    exact Nat.le_refl _
  · intro slot name alone earlier
    rw [lists.missing]
    intro entry member same
    obtain ⟨number, _, rfl⟩ := (entry_iff entry).mp member
    have last := (alone.nameOf_eq_some_iff readable.names).mp same
    obtain rfl := last.names.number
    exact earlier last
  · intro number used slot names
    cases given : nameOf ((exportDirectoryAt bytes place.rva limit).named bytes) number with
    | none => exact absurd names ((nameOf_named_eq_none_iff readable.names).mp given slot)
    | some name =>
      obtain ⟨last, namesLast, here⟩ := (nameOf_named_eq_some_iff readable.names).mp given
      exact ⟨last, name, _, namesLast, here, (entry_iff _).mpr ⟨number, used, rfl⟩, given, rfl⟩

/-- **Which names are kept.** A table that is read knows every used function that is named, each
by the last of its names; a directory that is not there has none. -/
theorem keepsNames_of_readExports (read : readExports bytes place limit = .ok table) :
    (place.isPresent = true → KeepsNames bytes (exportDirectoryAt bytes place.rva limit) table) ∧
      (place.isPresent = false → table = .empty) := by
  constructor
  · intro present
    obtain ⟨readable, rfl⟩ := (readExports_eq_ok_iff present).mp read
    exact keepsNames_exportTableAt readable
  · intro absent
    rw [readExports, absent] at read
    exact (Except.ok.inj read).symm

/-- A directory with one function that is named `a` and then `b`. -/
def aliased : Bytes :=
  List.replicate 16 0 ++ [0, 1, 1, 2, 44, 48, 56].flatMap (Bytes.ofNat 4) ++
    Bytes.ofNat 4 0x1000 ++ [60, 62].flatMap (Bytes.ofNat 4) ++ [0, 0].flatMap (Bytes.ofNat 2) ++
    [97, 0, 98, 0]

theorem readExports_aliased : readExports aliased ⟨4, 60⟩ 16 =
    .ok { library := none, ordinalBase := 1, entries := [⟨some "b", 1, 0x1000, none⟩] } := by
  decide +kernel

theorem aliased_keepsNames :
    readExports aliased ⟨4, 60⟩ 16 =
      .ok { library := none, ordinalBase := 1, entries := [⟨some "b", 1, 0x1000, none⟩] } ∧
    KeepsNames aliased (exportDirectoryAt aliased 4 16)
      { library := none, ordinalBase := 1, entries := [⟨some "b", 1, 0x1000, none⟩] } :=
  ⟨readExports_aliased, (keepsNames_of_readExports readExports_aliased).1 rfl⟩

/-- The first of two names of a function is given by one slot only, and is not found. -/
theorem aliased_loses :
    ∃ table, readExports aliased ⟨4, 60⟩ 16 = .ok table ∧
      aliased.field 4 (4 + 20) ≤ 16 ∧ aliased.field 4 (4 + 24) ≤ 16 ∧
      (exportDirectoryAt aliased 4 16).NamesAlone aliased 0 "a" ∧
      (exportDirectoryAt aliased 4 16).numberAt aliased 0 ∈
        (exportDirectoryAt aliased 4 16).usedNumbers aliased ∧
      table.find? "a" = none := by
  have alone : (exportDirectoryAt aliased 4 16).NamesAlone aliased 0 "a" := by
    refine { counted := ?_, used := ?_, text := ?_, alone := ?_ } <;> decide +kernel
  exact ⟨_, readExports_aliased, by decide +kernel, by decide +kernel, alone, by decide +kernel,
    by decide +kernel⟩

end Landmark.Image
