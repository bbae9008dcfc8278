import Landmark.Image.Export
import Landmark.Proofs.Bytes
import Landmark.Proofs.Image.Reads
import Landmark.Proofs.Text.Utf8
import Mathlib.Data.List.Forall2
import Mathlib.Data.List.Nodup

/-! # What a table of exports lists

The export directory has a table of functions and, beside it, two tables that name some of
them by number, in any order and as often as they like. What the three come to is written
down here number by number: one export for each function whose slot is used, under the name
that the last slot gives it. If any part of the tables cannot be read there is no table at
all.
-/

namespace Landmark

/-- In a row that ascends by a key, the last entry of a kind has the greatest key. -/
theorem find?_reverse_eq_some_iff {α : Type} {row : List α} (key : α → Nat)
    (ascending : row.Pairwise fun a b => key a < key b) {test : α → Bool} {entry : α} :
    row.reverse.find? test = some entry ↔
      entry ∈ row ∧ test entry = true ∧
        ∀ other ∈ row, test other = true → key other ≤ key entry := by
  have greatest : ∀ {found}, row.reverse.find? test = some found →
      ∀ other ∈ row, test other = true → key other ≤ key found := by
    intro found last other member passes
    obtain ⟨_, behind, front, split, none_behind⟩ := List.find?_eq_some_iff_append.mp last
    have row_eq : row = front.reverse ++ found :: behind.reverse := by
      rw [← List.reverse_reverse row, split]
      simp
    rw [row_eq] at ascending member
    rcases List.mem_append.mp member with inFront | later
    · exact Nat.le_of_lt
        ((List.pairwise_append.mp ascending).2.2 other inFront found List.mem_cons_self)
    · cases List.mem_cons.mp later with
      | inl same => rw [same]
      | inr inBehind =>
        have fails := none_behind other (List.mem_reverse.mp inBehind)
        rw [passes] at fails
        cases fails
  constructor
  · intro last
    exact ⟨List.mem_reverse.mp (List.mem_of_find?_eq_some last), List.find?_some last,
      greatest last⟩
  · rintro ⟨member, passes, most⟩
    cases last : row.reverse.find? test with
    | none =>
      exact absurd passes (List.find?_eq_none.mp last entry (List.mem_reverse.mpr member))
    | some found =>
      have inRow := List.mem_reverse.mp (List.mem_of_find?_eq_some last)
      have same : key found = key entry :=
        Nat.le_antisymm (most found inRow (List.find?_some last))
          (greatest last entry member passes)
      have distinct : (row.map key).Nodup :=
        (List.pairwise_map.mpr ascending).imp Nat.ne_of_lt
      rw [List.inj_on_of_nodup_map distinct inRow member same]

theorem filterMap_ite {α β : Type} {unused : α → Prop} [DecidablePred unused] (value : α → β)
    (row : List α) :
    row.filterMap (fun a => if unused a then none else some (value a)) =
      (row.filter fun a => ¬unused a).map value := by
  induction row with
  | nil => rfl
  | cons first rest ih => by_cases skipped : unused first <;> simp [skipped, ih]

namespace Image

variable {bytes : Bytes} {offset limit : Nat} {text : String}

/-! ## Texts -/

/-- A text stands at a place: its bytes are there, with the first zero right behind them, and that
zero is among the `limit` bytes from there on. -/
def TextAt (bytes : Bytes) (offset limit : Nat) (text : String) : Prop :=
  (Text.Utf8.encode text).length < limit ∧ 0 ∉ Text.Utf8.encode text ∧
    Text.Utf8.encode text ++ [0] <+: bytes.drop offset

theorem readName_eq_ok_iff :
    readName bytes offset limit = .ok text ↔ TextAt bytes offset limit text := by
  have ends : Bytes.untilNul? ((bytes.drop offset).take limit) = some (Text.Utf8.encode text) ↔
      TextAt bytes offset limit text := by
    rw [Bytes.untilNul?_eq_some_iff, List.prefix_take_iff, List.length_append]
    exact ⟨fun ⟨plain, here, short⟩ => ⟨short, plain, here⟩,
      fun ⟨short, plain, here⟩ => ⟨plain, here, short⟩⟩
  rw [← ends]
  unfold readName
  split
  next past =>
    rw [List.drop_eq_nil_of_le (Nat.le_of_lt past), List.take_nil]
    exact ⟨(nomatch ·), (nomatch ·)⟩
  next inside =>
    split
    next endless =>
      rw [endless]
      exact ⟨(nomatch ·), (nomatch ·)⟩
    next name found =>
      rw [found, Option.some.injEq, ← Text.Utf8.decode?_eq_some_iff]
      split
      next other read => rw [read, Except.ok.injEq, Option.some.injEq]
      next unread =>
        rw [unread]
        exact ⟨(nomatch ·), (nomatch ·)⟩

/-- The text at a place, if one stands there. -/
def textAt? (bytes : Bytes) (offset limit : Nat) : Option String :=
  (readName bytes offset limit).toOption

theorem textAt?_eq_some_iff :
    textAt? bytes offset limit = some text ↔ TextAt bytes offset limit text := by
  rw [textAt?, toOption_eq_some_iff, readName_eq_ok_iff]

/-! ## The directory -/

/-- The fixed part of the export directory at `offset`, its counts cut off at `limit`. -/
def exportDirectoryAt (bytes : Bytes) (offset limit : Nat) : ExportDirectory where
  library := bytes.field 4 (offset + 12)
  ordinalBase := bytes.field 4 (offset + 16)
  functionCount := min (bytes.field 4 (offset + 20)) limit
  nameCount := min (bytes.field 4 (offset + 24)) limit
  functions := bytes.field 4 (offset + 28)
  names := bytes.field 4 (offset + 32)
  numbers := bytes.field 4 (offset + 36)

theorem readExportDirectory_of_fits (fits : offset + 40 ≤ bytes.length) :
    readExportDirectory bytes offset limit = .ok (exportDirectoryAt bytes offset limit) := by
  unfold readExportDirectory
  simp (disch := omega) only [readWord_of_fits, ok_bind]
  rfl

namespace ExportDirectory

variable (directory : ExportDirectory) (bytes : Bytes)

/-- Where a function stands; a slot that is not used holds zero. -/
def functionAt (number : Nat) : Nat := bytes.field 4 (directory.functions + number * 4)

/-- Where the name in a slot stands; a slot that is not used holds zero. -/
def nameAt (slot : Nat) : Nat := bytes.field 4 (directory.names + slot * 4)

/-- The number of the function that a slot names. -/
def numberAt (slot : Nat) : Nat := bytes.field 2 (directory.numbers + slot * 2)

/-- A slot that is used names a function. -/
structure Names (number slot : Nat) : Prop where
  counted : slot < directory.nameCount
  number : directory.numberAt bytes slot = number
  used : directory.nameAt bytes slot ≠ 0

/-- Of the slots that name a function, the last. -/
structure NamesLast (number slot : Nat) : Prop where
  names : directory.Names bytes number slot
  last : ∀ other, directory.Names bytes number other → other ≤ slot

/-- Both words of a slot can be read, and the name if it is used. -/
structure NameReadable (slot : Nat) : Prop where
  name : directory.names + slot * 4 + 4 ≤ bytes.length
  number : directory.numbers + slot * 2 + 2 ≤ bytes.length
  text : directory.nameAt bytes slot ≠ 0 →
    ∃ text, TextAt bytes (directory.nameAt bytes slot) 512 text

/-- The slot of a function can be read, and if it is used the ordinal has 32 bits. -/
structure FunctionReadable (number : Nat) : Prop where
  function : directory.functions + number * 4 + 4 ≤ bytes.length
  ordinal : directory.functionAt bytes number ≠ 0 → directory.ordinalBase + number < 0x100000000

/-- What a slot names, and how. -/
def named? (slot : Nat) : Option (Nat × String) :=
  if directory.nameAt bytes slot = 0 then none
  else (textAt? bytes (directory.nameAt bytes slot) 512).map (directory.numberAt bytes slot, ·)

def named (bytes : Bytes) : List (Nat × String) :=
  (List.range directory.nameCount).filterMap (directory.named? bytes)

/-- The last slot that names a function. -/
def lastNaming? (number : Nat) : Option Nat :=
  (List.range directory.nameCount).reverse.find? fun slot =>
    (directory.named? bytes slot).any fun found => found.1 == number

end ExportDirectory

variable {directory : ExportDirectory} {number slot : Nat}

theorem readNameSlot_eq_ok_iff {found : Option (Nat × String)} :
    readNameSlot bytes directory slot = .ok found ↔
      directory.NameReadable bytes slot ∧ found = directory.named? bytes slot := by
  simp only [readNameSlot, bind_eq_ok, readWord_eq_ok_iff]
  constructor
  · rintro ⟨_, ⟨name, rfl⟩, _, ⟨numbered, rfl⟩, last⟩
    unfold ExportDirectory.named?
    split at last
    next unused =>
      obtain rfl := Except.ok.inj last
      exact ⟨⟨name, numbered, fun used => absurd unused used⟩, (if_pos unused).symm⟩
    next used =>
      obtain ⟨text, read, same⟩ := bind_eq_ok.mp last
      obtain rfl := Except.ok.inj same
      have here := readName_eq_ok_iff.mp read
      refine ⟨⟨name, numbered, fun _ => ⟨text, here⟩⟩, ?_⟩
      rw [ExportDirectory.nameAt, if_neg used, textAt?_eq_some_iff.mpr here]
      rfl
  · rintro ⟨readable, rfl⟩
    refine ⟨_, ⟨readable.name, rfl⟩, _, ⟨readable.number, rfl⟩, ?_⟩
    unfold ExportDirectory.named?
    split
    next unused =>
      rw [ExportDirectory.nameAt, if_pos unused]
      rfl
    next used =>
      obtain ⟨text, here⟩ := readable.text used
      refine bind_eq_ok.mpr ⟨text, readName_eq_ok_iff.mpr here, ?_⟩
      rw [if_neg (show directory.nameAt bytes slot ≠ 0 from used), textAt?_eq_some_iff.mpr here]
      rfl

theorem readNames_eq_ok_iff {names : List (Nat × String)} :
    readNames bytes directory = .ok names ↔
      (directory.nameCount ≠ 0 → directory.names ≠ 0 ∧ directory.numbers ≠ 0) ∧
        (∀ slot < directory.nameCount, directory.NameReadable bytes slot) ∧
        names = directory.named bytes := by
  have row : ∀ slots, readRow (readNameSlot bytes directory) directory.nameCount 0 = .ok slots ↔
      (∀ slot < directory.nameCount, directory.NameReadable bytes slot) ∧
        slots = (List.range directory.nameCount).map (directory.named? bytes) := by
    intro slots
    rw [readRow_eq_ok_iff fun _ _ => readNameSlot_eq_ok_iff, List.range_eq_range', Nat.zero_add]
    simp only [Nat.zero_le, true_imp_iff]
  unfold readNames
  split
  next broken =>
    obtain ⟨counted, missing⟩ := broken
    refine ⟨(nomatch ·), fun both => ?_⟩
    have stand := both.1 (Nat.ne_of_gt counted)
    exact absurd missing (not_or.mpr stand)
  next whole =>
    have stand : directory.nameCount ≠ 0 → directory.names ≠ 0 ∧ directory.numbers ≠ 0 := by
      intro counted
      exact not_or.mp fun missing => whole ⟨Nat.pos_of_ne_zero counted, missing⟩
    simp only [bind_eq_ok, row]
    constructor
    · rintro ⟨slots, ⟨readable, rfl⟩, same⟩
      obtain rfl := Except.ok.inj same
      exact ⟨stand, readable, List.filterMap_map ..⟩
    · rintro ⟨_, readable, rfl⟩
      exact ⟨_, ⟨readable, rfl⟩, congrArg Except.ok (List.filterMap_map ..)⟩

theorem named?_eq_some_iff {found : Nat × String} :
    directory.named? bytes slot = some found ↔ directory.nameAt bytes slot ≠ 0 ∧
      directory.numberAt bytes slot = found.1 ∧
        TextAt bytes (directory.nameAt bytes slot) 512 found.2 := by
  unfold ExportDirectory.named?
  split
  next unused => simp [unused]
  next used =>
    rw [Option.map_eq_some_iff]
    constructor
    · rintro ⟨text, here, rfl⟩
      exact ⟨used, rfl, textAt?_eq_some_iff.mp here⟩
    · rintro ⟨_, numbered, here⟩
      exact ⟨found.2, textAt?_eq_some_iff.mpr here, Prod.ext numbered rfl⟩

section Names

variable (readable : ∀ slot < directory.nameCount, directory.NameReadable bytes slot)
include readable

theorem names_iff :
    directory.Names bytes number slot ↔ slot ∈ List.range directory.nameCount ∧
      (directory.named? bytes slot).any (fun found => found.1 == number) = true := by
  simp only [List.mem_range, Option.any_eq_true, beq_iff_eq, named?_eq_some_iff]
  constructor
  · rintro ⟨counted, numbered, used⟩
    obtain ⟨text, here⟩ := (readable slot counted).text used
    exact ⟨counted, (number, text), ⟨used, numbered, here⟩, rfl⟩
  · rintro ⟨counted, found, ⟨used, numbered, _⟩, same⟩
    exact ⟨counted, numbered.trans same, used⟩

theorem lastNaming?_eq_some_iff :
    directory.lastNaming? bytes number = some slot ↔ directory.NamesLast bytes number slot := by
  rw [ExportDirectory.lastNaming?, find?_reverse_eq_some_iff id List.pairwise_lt_range,
    ← and_assoc, ← names_iff readable]
  constructor
  · rintro ⟨names, most⟩
    exact ⟨names, fun other again =>
      most other ((names_iff readable).mp again).1 ((names_iff readable).mp again).2⟩
  · rintro ⟨names, most⟩
    exact ⟨names, fun other member again => most other ((names_iff readable).mpr ⟨member, again⟩)⟩

/-- A function has the name in the last of the slots that name it. -/
theorem nameOf_named_eq_some_iff :
    nameOf (directory.named bytes) number = some text ↔
      ∃ slot, directory.NamesLast bytes number slot ∧
        TextAt bytes (directory.nameAt bytes slot) 512 text := by
  unfold nameOf ExportDirectory.named
  rw [← List.filterMap_reverse, List.find?_filterMap, Option.map_eq_some_iff]
  change (∃ found, (directory.lastNaming? bytes number).bind _ = some found ∧ _) ↔ _
  simp only [Option.bind_eq_some_iff, lastNaming?_eq_some_iff readable, named?_eq_some_iff]
  constructor
  · rintro ⟨found, ⟨slot, last, _, _, here⟩, rfl⟩
    exact ⟨slot, last, here⟩
  · rintro ⟨slot, last, here⟩
    exact ⟨(number, text), ⟨slot, last, last.names.used, last.names.number, here⟩, rfl⟩

theorem nameOf_named_eq_none_iff :
    nameOf (directory.named bytes) number = none ↔ ∀ slot, ¬directory.Names bytes number slot := by
  constructor
  · intro unnamed slot names
    cases last : directory.lastNaming? bytes number with
    | none =>
      have member := (names_iff readable).mp names
      exact List.find?_eq_none.mp last slot (List.mem_reverse.mpr member.1) member.2
    | some greatest =>
      have namesLast := (lastNaming?_eq_some_iff readable).mp last
      obtain ⟨text, here⟩ :=
        (readable greatest namesLast.names.counted).text namesLast.names.used
      have given := (nameOf_named_eq_some_iff readable).mpr ⟨greatest, namesLast, here⟩
      cases unnamed.symm.trans given
  · intro none_names
    cases given : nameOf (directory.named bytes) number with
    | none => rfl
    | some text =>
      obtain ⟨slot, last, _⟩ := (nameOf_named_eq_some_iff readable).mp given
      exact absurd last.names (none_names slot)

end Names

/-! ## The table -/

section Table

variable {place : Directory} {names : List (Nat × String)}

/-- What is exported under a number. -/
def exportAt (bytes : Bytes) (place : Directory) (directory : ExportDirectory)
    (names : List (Nat × String)) (number : Nat) : Export where
  name := nameOf names number
  ordinal := directory.ordinalBase + number
  rva := directory.functionAt bytes number
  forwarder :=
    if place.contains (directory.functionAt bytes number) then
      textAt? bytes (directory.functionAt bytes number) 256
    else none

theorem readExport_eq_ok_iff {found : Option Export} :
    readExport bytes place directory names number = .ok found ↔
      directory.FunctionReadable bytes number ∧
        found = if directory.functionAt bytes number = 0 then none
          else some (exportAt bytes place directory names number) := by
  simp only [readExport, bind_eq_ok, readWord_eq_ok_iff]
  constructor
  · rintro ⟨_, ⟨inside, rfl⟩, last⟩
    split at last
    next unused =>
      obtain rfl := Except.ok.inj last
      exact ⟨⟨inside, fun used => absurd unused used⟩, (if_pos unused).symm⟩
    next used =>
      split at last
      next => cases last
      next small =>
        obtain rfl := Except.ok.inj last
        exact ⟨⟨inside, fun _ => Nat.lt_of_not_le small⟩, (if_neg used).symm⟩
  · rintro ⟨readable, rfl⟩
    refine ⟨_, ⟨readable.function, rfl⟩, ?_⟩
    split
    next unused =>
      rw [if_pos (show directory.functionAt bytes number = 0 from unused)]
      rfl
    next used =>
      have small := Nat.not_le.mpr (readable.ordinal used)
      rw [if_neg small, if_neg (show directory.functionAt bytes number ≠ 0 from used)]
      rfl

/-- All that a present directory asks for can be read. -/
structure ExportsReadable (bytes : Bytes) (place : Directory) (limit : Nat) : Prop where
  inside : place.rva + 40 ≤ bytes.length
  library : (exportDirectoryAt bytes place.rva limit).library ≠ 0 →
    ∃ text, TextAt bytes (exportDirectoryAt bytes place.rva limit).library 256 text
  tables : (exportDirectoryAt bytes place.rva limit).nameCount ≠ 0 →
    (exportDirectoryAt bytes place.rva limit).names ≠ 0 ∧
      (exportDirectoryAt bytes place.rva limit).numbers ≠ 0
  names : ∀ slot < (exportDirectoryAt bytes place.rva limit).nameCount,
    (exportDirectoryAt bytes place.rva limit).NameReadable bytes slot
  functions : ∀ number < (exportDirectoryAt bytes place.rva limit).functionCount,
    (exportDirectoryAt bytes place.rva limit).FunctionReadable bytes number

/-- The numbers of the functions whose slots are used. -/
def ExportDirectory.usedNumbers (directory : ExportDirectory) (bytes : Bytes) : List Nat :=
  (List.range directory.functionCount).filter fun number => directory.functionAt bytes number ≠ 0

/-- The exports of a directory, in the order of their numbers. -/
def exportTableAt (bytes : Bytes) (place : Directory) (limit : Nat) : ExportTable :=
  let directory := exportDirectoryAt bytes place.rva limit
  { library := if directory.library = 0 then none else textAt? bytes directory.library 256
    ordinalBase := directory.ordinalBase
    entries := (directory.usedNumbers bytes).map
      (exportAt bytes place directory (directory.named bytes)) }

theorem readSlots_eq_ok_iff {slots : List (Option Export)} :
    readRow (readExport bytes place directory names) directory.functionCount 0 = .ok slots ↔
      (∀ number < directory.functionCount, directory.FunctionReadable bytes number) ∧
        slots = (List.range directory.functionCount).map fun number =>
          if directory.functionAt bytes number = 0 then none
          else some (exportAt bytes place directory names number) := by
  rw [readRow_eq_ok_iff fun _ _ => readExport_eq_ok_iff, List.range_eq_range', Nat.zero_add]
  simp only [Nat.zero_le, true_imp_iff]

/-- The tables are read when both of them can be. -/
theorem readTables_eq_ok_iff {library : Option String} {table : ExportTable} :
    (do
      let names ← readNames bytes directory
      let slots ← readRow (readExport bytes place directory names) directory.functionCount 0
      return { library, ordinalBase := directory.ordinalBase, entries := slots.filterMap id })
        = Except.ok table ↔
      ((directory.nameCount ≠ 0 → directory.names ≠ 0 ∧ directory.numbers ≠ 0) ∧
        (∀ slot < directory.nameCount, directory.NameReadable bytes slot) ∧
        ∀ number < directory.functionCount, directory.FunctionReadable bytes number) ∧
      table = {
        library, ordinalBase := directory.ordinalBase
        entries := (directory.usedNumbers bytes).map
          (exportAt bytes place directory (directory.named bytes)) } := by
  have entries : ∀ names, ((List.range directory.functionCount).map fun number =>
      if directory.functionAt bytes number = 0 then none
      else some (exportAt bytes place directory names number)).filterMap id =
        (directory.usedNumbers bytes).map (exportAt bytes place directory names) := by
    intro names
    rw [List.filterMap_map]
    exact filterMap_ite _ _
  simp only [bind_eq_ok, readNames_eq_ok_iff, readSlots_eq_ok_iff]
  constructor
  · rintro ⟨_, ⟨stand, named, rfl⟩, _, ⟨functions, rfl⟩, same⟩
    rw [← entries]
    exact ⟨⟨stand, named, functions⟩, (Except.ok.inj same).symm⟩
  · rintro ⟨⟨stand, named, functions⟩, rfl⟩
    refine ⟨_, ⟨stand, named, rfl⟩, _, ⟨functions, rfl⟩, ?_⟩
    rw [entries]
    rfl

theorem readExports_eq_ok_iff (present : place.isPresent = true) {table : ExportTable} :
    readExports bytes place limit = .ok table ↔
      ExportsReadable bytes place limit ∧ table = exportTableAt bytes place limit := by
  unfold readExports exportTableAt
  rw [present]
  simp only [Bool.not_true, Bool.false_eq_true, if_false]
  by_cases inside : place.rva + 40 ≤ bytes.length
  · rw [if_neg (Nat.not_lt.mpr inside), readExportDirectory_of_fits inside, ok_bind]
    split
    next none_named =>
      rw [pure_bind, readTables_eq_ok_iff]
      constructor
      · rintro ⟨⟨stand, named, functions⟩, same⟩
        exact ⟨⟨inside, fun some_named => absurd none_named some_named, stand, named, functions⟩,
          same⟩
      · rintro ⟨readable, same⟩
        exact ⟨⟨readable.tables, readable.names, readable.functions⟩, same⟩
    next some_named =>
      rw [bind_eq_ok]
      simp only [readName_eq_ok_iff, pure_bind, readTables_eq_ok_iff]
      constructor
      · rintro ⟨text, here, ⟨stand, named, functions⟩, same⟩
        rw [textAt?_eq_some_iff.mpr here]
        exact ⟨⟨inside, fun _ => ⟨text, here⟩, stand, named, functions⟩, same⟩
      · rintro ⟨readable, same⟩
        obtain ⟨text, here⟩ := readable.library some_named
        rw [textAt?_eq_some_iff.mpr here] at same
        exact ⟨text, here, ⟨readable.tables, readable.names, readable.functions⟩, same⟩
  · rw [if_pos (Nat.lt_of_not_le inside)]
    exact ⟨(nomatch ·), fun both => absurd both.1.inside inside⟩

/-- An export is what the tables say of a number. -/
structure Shows (bytes : Bytes) (place : Directory) (directory : ExportDirectory) (number : Nat)
    (entry : Export) : Prop where
  rva : entry.rva = directory.functionAt bytes number
  ordinal : entry.ordinal = directory.ordinalBase + number
  small : entry.ordinal < 0x100000000
  name : ∀ text, entry.name = some text ↔ ∃ slot, directory.NamesLast bytes number slot ∧
    TextAt bytes (directory.nameAt bytes slot) 512 text
  unnamed : entry.name = none ↔ ∀ slot, ¬directory.Names bytes number slot
  forwarder : ∀ text, entry.forwarder = some text ↔
    place.contains entry.rva = true ∧ TextAt bytes entry.rva 256 text

/-- A table is what a directory lists. -/
structure ListsExports (bytes : Bytes) (place : Directory) (directory : ExportDirectory)
    (table : ExportTable) : Prop where
  library : ∀ text, table.library = some text ↔
    directory.library ≠ 0 ∧ TextAt bytes directory.library 256 text
  ordinalBase : table.ordinalBase = directory.ordinalBase
  /-- One for each function whose slot is used, in the order of the slots. -/
  entries : List.Forall₂ (Shows bytes place directory) (directory.usedNumbers bytes) table.entries
  /-- Of several exports of a name the last is found. -/
  found : ∀ name entry, table.find? name = some entry ↔
    entry ∈ table.entries ∧ entry.name = some name ∧
      ∀ other ∈ table.entries, other.name = some name → other.ordinal ≤ entry.ordinal
  missing : ∀ name, table.find? name = none ↔ ∀ entry ∈ table.entries, entry.name ≠ some name

theorem shows_exportAt (readable : ExportsReadable bytes place limit)
    (used : number ∈ (exportDirectoryAt bytes place.rva limit).usedNumbers bytes) :
    Shows bytes place (exportDirectoryAt bytes place.rva limit) number
      (exportAt bytes place (exportDirectoryAt bytes place.rva limit)
        ((exportDirectoryAt bytes place.rva limit).named bytes) number) := by
  obtain ⟨counted, used⟩ := List.mem_filter.mp used
  have function := readable.functions number (List.mem_range.mp counted)
  refine {
    rva := rfl, ordinal := rfl
    small := function.ordinal (of_decide_eq_true used)
    name := fun _ => nameOf_named_eq_some_iff readable.names
    unnamed := nameOf_named_eq_none_iff readable.names
    forwarder := fun text => ?_ }
  rw [exportAt]
  split
  next within => simp only [textAt?_eq_some_iff, within, true_and]
  next beside => simp only [reduceCtorEq, beside, Bool.false_eq_true, false_and]

theorem listsExports_exportTableAt (readable : ExportsReadable bytes place limit) :
    ListsExports bytes place (exportDirectoryAt bytes place.rva limit)
      (exportTableAt bytes place limit) := by
  have ascending : (exportTableAt bytes place limit).entries.Pairwise
      fun a b => a.ordinal < b.ordinal := by
    refine List.pairwise_map.mpr ((List.pairwise_lt_range.filter _).imp ?_)
    intro a b less
    exact Nat.add_lt_add_left less _
  refine {
    library := fun text => ?_
    ordinalBase := rfl
    entries := ?_
    found := fun name entry => ?_
    missing := fun name => ?_ }
  · unfold exportTableAt
    dsimp only
    split
    next none_named => simp [none_named]
    next some_named => simp [some_named, textAt?_eq_some_iff]
  · exact List.forall₂_map_right_iff.mpr
      (List.forall₂_same.mpr fun number used => shows_exportAt readable used)
  · rw [ExportTable.find?, find?_reverse_eq_some_iff Export.ordinal ascending]
    simp only [beq_iff_eq]
  · simp [ExportTable.find?]

/-- **The table of exports is exact.** There is one just when all that the directory asks for can
be read, and it lists the used functions number by number. -/
theorem readExports_exact (bytes : Bytes) (place : Directory) (limit : Nat)
    (present : place.isPresent = true) :
    (∀ table, readExports bytes place limit = .ok table →
      ListsExports bytes place (exportDirectoryAt bytes place.rva limit) table) ∧
    ((∃ table, readExports bytes place limit = .ok table) ↔
      ExportsReadable bytes place limit) ∧
    (¬ExportsReadable bytes place limit →
      ∃ fault, readExports bytes place limit = .error fault) := by
  have read : ∀ table, readExports bytes place limit = .ok table ↔
      ExportsReadable bytes place limit ∧ table = exportTableAt bytes place limit :=
    fun _ => readExports_eq_ok_iff present
  refine ⟨?_, ?_, ?_⟩
  · intro table found
    obtain ⟨readable, rfl⟩ := (read table).mp found
    exact listsExports_exportTableAt readable
  · exact ⟨fun ⟨table, found⟩ => ((read table).mp found).1,
      fun readable => ⟨_, (read _).mpr ⟨readable, rfl⟩⟩⟩
  · intro unreadable
    cases ended : readExports bytes place limit with
    | ok table => exact absurd ((read table).mp ended).1 unreadable
    | error fault => exact ⟨fault, rfl⟩

/-- A directory with three functions, the second unused. Of its five names two belong to the first
function, one is unused, and the last two belong to the unused function and to none. -/
def crowded : Bytes :=
  List.replicate 16 0 ++ [88, 5, 3, 5, 44, 56, 76].flatMap (Bytes.ofNat 4) ++
    [0x1000, 0, 86].flatMap (Bytes.ofNat 4) ++ [86, 88, 0, 86, 86].flatMap (Bytes.ofNat 4) ++
    [0, 0, 0, 1, 9].flatMap (Bytes.ofNat 2) ++ [97, 0, 98, 0]

theorem crowded_exact : Directory.isPresent ⟨4, 86⟩ = true ∧
    ListsExports crowded ⟨4, 86⟩ (exportDirectoryAt crowded 4 16) {
      library := some "b", ordinalBase := 5
      entries := [⟨some "b", 5, 0x1000, none⟩, ⟨none, 7, 86, some "a"⟩] } :=
  ⟨rfl, (readExports_exact crowded ⟨4, 86⟩ 16 rfl).1 _ (by decide +kernel)⟩

end Table

end Image

end Landmark
