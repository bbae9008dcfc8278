import Landmark.Proofs.Config
import Landmark.Proofs.Config.Field
import Landmark.Proofs.JsonText.Object
import Mathlib.Data.List.Nodup
import Mathlib.Tactic.Convert

/-! # Configurations read from some of their fields

A text may give any fields of a configuration, in any order in each of its objects. What it gives
is taken over and everything else is as by default. Only then is the outcome asked whether it can
be used, so that a field given may clash with the default of another record. A configuration that
can be used and is written whole reads back as it was. All this holds of any lawful format.
-/

namespace Landmark.Config

open JsonFormat

variable {home : Section} {config : Config} {chosen : ∀ home, Field home → Prop}

/-- The chosen fields are as in `config` and the others by default. -/
structure Merges (config : Config) (chosen : ∀ home, Field home → Prop) (merged : Config) :
    Prop where
  given : ∀ home (field : Field home), chosen home field → field.value merged = field.value config
  others : ∀ home (field : Field home), ¬chosen home field → field.value merged = field.value {}

theorem Merges.unique {one two : Config}
    (first : Merges config chosen one) (second : Merges config chosen two) : one = two := by
  refine ext_fields fun home field => ?_
  by_cases given : chosen home field
  · rw [first.given home field given, second.given home field given]
  · rw [first.others home field given, second.others home field given]

/-! ## Arrangements -/

/-- Fields of one record in the order in which they are given. -/
structure Row where
  home : Section
  fields : List (Field home)
  distinct : fields.Nodup

/-- Fields of a configuration, record by record, in the order in which they are given. -/
structure Arrangement where
  rows : List Row
  distinct : (rows.map Row.home).Nodup

/-- The field is among those of its record's row. -/
def Arrangement.Gives (arrangement : Arrangement) (home : Section) (field : Field home) : Prop :=
  ∃ fields distinct, Row.mk home fields distinct ∈ arrangement.rows ∧ field ∈ fields

/-- The chosen fields are given and no others. -/
def Arrangement.Lists (arrangement : Arrangement) (chosen : ∀ home, Field home → Prop) : Prop :=
  ∀ home (field : Field home), arrangement.Gives home field ↔ chosen home field

/-- All fields of a record. -/
def Section.row (home : Section) : Row where
  home
  fields := home.fields
  distinct := by cases home <;> decide

/-- All fields of a configuration. -/
def Arrangement.whole : Arrangement where
  rows := Section.all.map Section.row
  distinct := by decide

/-! ## What an arrangement comes to -/

variable {arrangement : Arrangement} {text : String}

/-- What reading a row makes of a configuration. -/
def Row.put (config : Config) (row : Row) (target : Config) : Config :=
  row.home.set target (Section.takeOver (row.home.get config) (row.home.get {}) row.fields)

theorem Row.get_foldl_of_apart {rows : List Row} (apart : home ∉ rows.map Row.home)
    (config target : Config) :
    home.get (rows.foldl (fun target row => row.put config target) target) = home.get target := by
  induction rows generalizing target with
  | nil => rfl
  | cons row rows ih =>
    rw [List.map_cons, List.mem_cons, not_or] at apart
    obtain ⟨here, later⟩ := apart
    rw [List.foldl_cons, ih later]
    exact Section.get_set_of_ne here _ _

theorem Row.get_foldl_of_mem {rows : List Row} {row : Row} (distinct : (rows.map Row.home).Nodup)
    (member : row ∈ rows) (config target : Config) :
    row.home.get (rows.foldl (fun target row => row.put config target) target) =
      Section.takeOver (row.home.get config) (row.home.get {}) row.fields := by
  induction rows generalizing target with
  | nil => cases member
  | cons first rows ih =>
    obtain ⟨apart, distinct⟩ := List.nodup_cons.mp distinct
    rw [List.foldl_cons]
    cases member with
    | head =>
      rw [Row.get_foldl_of_apart apart]
      exact Section.get_set_self _ _ _
    | tail _ member => exact ih distinct member _

namespace Arrangement

/-- The configuration that reading comes to. -/
def outcome (arrangement : Arrangement) (config : Config) : Config :=
  arrangement.rows.foldl (fun target row => row.put config target) {}

theorem merges (lists : arrangement.Lists chosen) (config : Config) :
    Merges config chosen (arrangement.outcome config) := by
  constructor
  case given =>
    intro home field given
    obtain ⟨fields, distinct, member, inside⟩ := (lists home field).mpr given
    have found := Row.get_foldl_of_mem arrangement.distinct member config {}
    rw [Field.value, outcome, found, Section.value_takeOver, if_pos inside]
    rfl
  case others =>
    intro home field spared
    by_cases there : home ∈ arrangement.rows.map Row.home
    · obtain ⟨⟨home, fields, distinct⟩, member, rfl⟩ := List.mem_map.mp there
      have found := Row.get_foldl_of_mem arrangement.distinct member config {}
      have outside : field ∉ fields :=
        fun inside => spared ((lists home field).mp ⟨fields, distinct, member, inside⟩)
      rw [Field.value, outcome, found, Section.value_takeOver, if_neg outside]
      rfl
    · rw [Field.value, outcome, Row.get_foldl_of_apart there]
      rfl

/-- Any fields can be given. -/
theorem exists_lists (chosen : ∀ home, Field home → Prop) :
    ∃ arrangement : Arrangement, arrangement.Lists chosen := by
  classical
  let rowOf (home : Section) : Row :=
    ⟨home, home.fields.filter fun field => chosen home field,
      home.row.distinct.filter _⟩
  have distinct : ((Section.all.map rowOf).map Row.home).Nodup := by
    rw [List.map_map]
    exact (by decide : Section.all.Nodup)
  refine ⟨⟨Section.all.map rowOf, distinct⟩, fun home field => ?_⟩
  constructor
  case mp =>
    rintro ⟨fields, distinct, member, inside⟩
    obtain ⟨home, -, same⟩ := List.mem_map.mp member
    obtain ⟨rfl, same⟩ := Row.mk.inj same
    obtain rfl := eq_of_heq same
    simpa using (List.mem_filter.mp inside).2
  case mpr =>
    intro given
    exact ⟨_, _, List.mem_map_of_mem home.mem_all,
      List.mem_filter.mpr ⟨field.mem_fields, by simpa using given⟩⟩

theorem whole_lists : whole.Lists fun _ _ => True := by
  intro home field
  rw [iff_true]
  exact ⟨home.fields, home.row.distinct, List.mem_map_of_mem home.mem_all, field.mem_fields⟩

/-- Given whole, a configuration comes to itself. -/
theorem outcome_whole (config : Config) : whole.outcome config = config :=
  (whole.merges whole_lists config).unique
    ⟨fun _ _ _ => rfl, fun _ _ spared => absurd trivial spared⟩

end Arrangement

/-! ## Spellings of an arrangement -/

section Spellings

variable [JsonFormat]

/-- A field as a member of its object. -/
def Field.member (config : Config) (field : Field home) : Member where
  name := field.part.name
  Spells text := text = (field.value config).write

/-- A row as a member of the whole. -/
def Row.member (config : Config) (row : Row) : Member where
  name := row.home.name
  Spells := ObjectText (row.fields.map (Field.member config))

/-- The texts that give these fields as they are in `config`. -/
inductive Arrangement.Spells (arrangement : Arrangement) (config : Config) : String → Prop where
  | object {front object behind : List Char} (blankFront : Blank front)
      (spelled : ObjectText (arrangement.rows.map (Row.member config)) object)
      (blankBehind : Blank behind) :
      Spells arrangement config (String.ofList (front ++ (object ++ behind)))

/-! ## Reading an arrangement -/

/-- The row's fields as the slots of a record. -/
def Row.slot (row : Row) : Slot Config :=
  .ofRecord row.home.name (row.fields.map fun field => field.part.slot) (row.home.get {})
    row.home.get row.home.set

theorem Field.find?_slot (field : Field home) :
    ((home.fields.map fun field => field.part.slot).find? fun slot =>
      slot.name == field.part.name) = some field.part.slot := by
  cases field <;> rfl

theorem Section.find?_slot (home : Section) :
    (slots.find? fun slot => slot.name == home.name) = some home.row.slot := by
  cases home <;> rfl

theorem Row.putsAll (lawful : Lawful) (fits : config.Fits) (row : Row) :
    PutsAll (row.home.fields.map fun field => field.part.slot) (Field.member config)
      (fun field => field.part.copy (row.home.get config)) row.fields := by
  constructor
  case puts =>
    intro field _
    refine ⟨field.part.slot, field.find?_slot, ?_⟩
    rintro text rfl
    exact Part.takes lawful field.whole (fits row.home field)
  case distinct =>
    exact List.Nodup.map Field.name_injective row.distinct

theorem Arrangement.putsAll (lawful : Lawful) (fits : config.Fits) (arrangement : Arrangement) :
    PutsAll slots (Row.member config) (Row.put config) arrangement.rows := by
  constructor
  case puts =>
    intro row _
    refine ⟨row.home.row.slot, row.home.find?_slot, ?_⟩
    intro text spelled
    exact takes_ofRecord lawful (row.putsAll lawful fits) spelled
  case distinct =>
    have distinct := List.Nodup.map Section.name_injective arrangement.distinct
    rwa [List.map_map] at distinct

namespace Arrangement

theorem read_eq (lawful : Lawful) (fits : config.Fits)
    (spells : arrangement.Spells config text) :
    Config.read text = .ok (arrangement.outcome config) := by
  cases spells with
  | object blankFront spelled blankBehind =>
    rw [Config.read,
      readWhole_eq lawful (arrangement.putsAll lawful fits) blankFront blankBehind spelled]
    rfl

theorem ofText_eq (lawful : Lawful) (fits : config.Fits)
    (spells : arrangement.Spells config text) :
    ofText text = ((arrangement.outcome config).validate >>= fun _ =>
      .ok (arrangement.outcome config)) := by
  rw [ofText, read_eq lawful fits spells]
  rfl

/-- The text of these fields without any blanks. -/
def write (arrangement : Arrangement) (config : Config) : String :=
  String.ofList (writeRecord (arrangement.rows.map Row.slot) config)

theorem write_whole (config : Config) : whole.write config = config.write := rfl

theorem spells_write (lawful : Lawful) (arrangement : Arrangement) (config : Config) :
    arrangement.Spells config (arrangement.write config) := by
  have inner (row : Row) : (row.member config).Spells (row.slot.write config) :=
    objectText_writeRecord lawful (fun field _ => Part.slot_name _)
      (fun field _ => Part.slot_write _ _)
  have outer : ObjectText (arrangement.rows.map (Row.member config))
      (writeRecord (arrangement.rows.map Row.slot) config) :=
    objectText_writeRecord lawful (fun row _ => rfl) (fun row _ => inner row)
  have object := Spells.object blank_nil outer blank_nil
  rwa [List.append_nil, List.nil_append] at object

end Arrangement

/-- **A text overrides exactly the fields it gives.** In a lawful format, whatever fields are chosen
and in whatever order and with whatever blanks they are written as they are in `config`: what reads
is `config` in the chosen fields and the default in the others, when that can be used, and its first
fault otherwise. In particular a configuration that can be used reads back from what is written. -/
theorem overrides (lawful : Lawful) (fits : config.Fits) :
    (∀ chosen : ∀ home, Field home → Prop, ∃ merged, Merges config chosen merged ∧
      (∀ other, Merges config chosen other → other = merged) ∧
      ∀ (arrangement : Arrangement) (text : String), arrangement.Lists chosen →
        arrangement.Spells config text →
          (merged.Valid → ofText text = .ok merged) ∧
          (¬merged.Valid → ∃ fault, merged.fault? = some fault ∧ ofText text = .error fault)) ∧
    (config.Valid → ofText config.write = .ok config) := by
  constructor
  case left =>
    intro chosen
    obtain ⟨model, lists⟩ := Arrangement.exists_lists chosen
    have merges := model.merges lists config
    refine ⟨model.outcome config, merges, fun other same => same.unique merges, ?_⟩
    intro arrangement text lists spells
    rw [← (arrangement.merges lists config).unique merges]
    constructor
    case left =>
      intro valid
      rw [Arrangement.ofText_eq lawful fits spells, validate_eq_ok_iff.mpr valid]
      rfl
    case right =>
      intro invalid
      obtain ⟨fault, faulty⟩ :=
        Option.ne_none_iff_exists'.mp (fun fine => invalid (fault?_eq_none_iff.mp fine))
      refine ⟨fault, faulty, ?_⟩
      rw [Arrangement.ofText_eq lawful fits spells, validate, faulty]
      rfl
  case right =>
    intro valid
    have spells := Arrangement.whole.spells_write lawful config
    have read := Arrangement.ofText_eq lawful fits spells
    rw [Arrangement.write_whole, Arrangement.outcome_whole, validate_eq_ok_iff.mpr valid] at read
    exact read

end Spellings

/-- Windows to go with a wider alignment, and an anchor that is written with escapes. -/
def wide : Config where
  entries := { alignment := 1024, padding := 0xCC }
  notifier := { anchor := "\"Grüße\"\n\u0001", entryWindow := 1024 }
  cvar := { entryWindow := 2048 }

/-- The anchor, and behind it the alignment without the windows. -/
def Arrangement.narrow : Arrangement where
  rows := [⟨.notifier, [.notifierAnchor], by decide⟩, ⟨.entries, [.alignment], by decide⟩]
  distinct := by decide

/-- A spelling of these two with a blank here and there. -/
def narrowText : String :=
  "\x7b\"notifier\":\x7b\"anchor\": \"\\\"Grüße\\\"\\n\\u0001\"\x7d, " ++
    "\"entries\":\x7b \"alignment\":1024\x7d\x7d\n"

theorem spells_narrowText : Arrangement.narrow.Spells wide narrowText := by
  have space : Blank [' '] := by simp [Blank, isBlank]
  have newline : Blank ['\n'] := by simp [Blank, isBlank]
  have anchor : MemberText (Field.member wide .notifierAnchor) _ :=
    .pair blank_nil space rfl blank_nil
  have alignment : MemberText (Field.member wide .alignment) _ :=
    .pair blank_nil blank_nil rfl blank_nil
  have notifier : MemberText (Row.member wide Arrangement.narrow.rows[0]) _ :=
    .pair blank_nil blank_nil (.filled blank_nil (.last anchor)) blank_nil
  have entries : MemberText (Row.member wide Arrangement.narrow.rows[1]) _ :=
    .pair blank_nil blank_nil (.filled space (.last alignment)) blank_nil
  have both : ObjectText (Arrangement.narrow.rows.map (Row.member wide)) _ :=
    .filled blank_nil (.more notifier space (.last entries))
  have spelled := Arrangement.Spells.object blank_nil both newline
  convert spelled using 1
  decide +kernel

/-- The alignment clashes with the default of a window, and not with the windows that go with it. -/
theorem wide_overrides :
    Lawful ∧ wide.Fits ∧ ofText narrowText = .error (.notifierWindow 512 1024) ∧
      ofText wide.write = .ok wide := by
  have fits : wide.Fits := by
    intro home field
    cases field <;> first | exact trivial | (show _ ≤ _; decide)
  obtain ⟨partly, written⟩ := overrides JsonText.lawful fits
  obtain ⟨merged, -, unique, reads⟩ := partly Arrangement.narrow.Gives
  have lists : Arrangement.narrow.Lists Arrangement.narrow.Gives := fun _ _ => Iff.rfl
  obtain rfl := unique _ (Arrangement.narrow.merges lists wide)
  have clash : (Arrangement.narrow.outcome wide).fault? = some (.notifierWindow 512 1024) := by
    decide
  obtain ⟨-, refuses⟩ := reads Arrangement.narrow narrowText lists spells_narrowText
  refine ⟨JsonText.lawful, fits, ?_, written (fault?_eq_none_iff.mp (by decide))⟩
  obtain ⟨fault, first, refused⟩ := refuses fun valid => by
    rw [fault?_eq_none_iff.mpr valid] at clash
    cases clash
  obtain rfl := Option.some.inj (first.symm.trans clash)
  exact refused

end Landmark.Config
