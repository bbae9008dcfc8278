import Landmark.Config.Text
import Landmark.Proofs.JsonFormat

/-! # Fields of a configuration

A configuration is made of eight records and each of them of a few fields, numbers in a range and
texts. A field has a name in its record, can be read and be taken over from one record to another;
taking one over leaves the others alone, and a configuration is what its fields hold.
-/

namespace Landmark.Config

open JsonFormat

/-! ## Parts of a record -/

/-- What a field holds. -/
inductive Value where
  | number (n : Nat)
  | text (s : String)

def Value.write [JsonFormat] : Value → List Char
  | number n => writeNat n
  | text s => writeText s

/-- A part of a record by its name: a number of at most `limit`, or a text. -/
inductive Part (σ : Type) where
  | number (name : String) (limit : Nat) (get : σ → Nat) (set : σ → Nat → σ)
  | text (name : String) (get : σ → String) (set : σ → String → σ)

namespace Part

variable {σ : Type}

def name : Part σ → String
  | number name _ _ _ => name
  | text name _ _ => name

def value : Part σ → σ → Value
  | number _ _ get _, record => .number (get record)
  | text _ get _, record => .text (get record)

/-- The target with this part as it is in the source. -/
def copy : Part σ → (source target : σ) → σ
  | number _ _ get set, source, target => set target (get source)
  | text _ get set, source, target => set target (get source)

/-- A number is in its range. -/
def Fits (record : σ) : Part σ → Prop
  | number _ limit get _ => get record ≤ limit
  | text .. => True

/-- A number takes at most 64 bits. -/
def Whole : Part σ → Prop
  | number _ limit _ _ => limit ≤ max64
  | text .. => True

theorem copy_congr {part : Part σ} {one two : σ} (same : part.value one = part.value two)
    (target : σ) : part.copy one target = part.copy two target := by
  cases part with
  | number => exact congrArg _ (Value.number.inj same)
  | text => exact congrArg _ (Value.text.inj same)

section Slots

variable [JsonFormat]

def slot : Part σ → Slot σ
  | number name limit get set => .ofNat name limit get set
  | text name get set => .ofText name get set

theorem takes (lawful : Lawful) {part : Part σ} {source : σ} (whole : part.Whole)
    (fits : part.Fits source) :
    part.slot.Takes (part.value source).write (part.copy source) := by
  cases part with
  | number => exact takes_ofNat lawful fits whole
  | text => exact takes_ofText lawful

@[simp] theorem slot_name (part : Part σ) : part.slot.name = part.name := by
  cases part <;> rfl

@[simp] theorem slot_write (part : Part σ) (record : σ) :
    part.slot.write record = (part.value record).write := by
  cases part <;> rfl

end Slots

end Part

/-! ## Sections and fields -/

/-- The records that a configuration is made of. -/
inductive Section where
  | opening
  | segments
  | entries
  | parser
  | notifier
  | globals
  | player
  | cvar
  deriving DecidableEq

/-- The fields of each of them. -/
inductive Field : Section → Type where
  | maxHeaderOffset : Field .opening
  | maxExports : Field .opening
  | code : Field .segments
  | rodata : Field .segments
  | alignment : Field .entries
  | padding : Field .entries
  | maxInstructions : Field .parser
  | notifierAnchor : Field .notifier
  | notifierWindow : Field .notifier
  | callerExport : Field .notifier
  | function : Field .globals
  | scanWindow : Field .globals
  | playerFieldOffset : Field .globals
  | playerAnchor : Field .player
  | gettextExport : Field .player
  | callWindow : Field .player
  | minCalls : Field .player
  | gettextIndex : Field .player
  | resultIndex : Field .player
  | cvarAnchor : Field .cvar
  | cvarWindow : Field .cvar
  | accessorCallIndex : Field .cvar
  deriving DecidableEq

namespace Section

abbrev Record : Section → Type
  | opening => OpeningLimits
  | segments => SegmentNames
  | entries => EntryConvention
  | parser => ParserLimits
  | notifier => NotifierSettings
  | globals => GlobalsSettings
  | player => PlayerSettings
  | cvar => CvarSettings

def name : Section → String
  | opening => "module"
  | segments => "segments"
  | entries => "entries"
  | parser => "parser"
  | notifier => "notifier"
  | globals => "globals"
  | player => "player"
  | cvar => "cvar"

def get : (home : Section) → Config → home.Record
  | opening => Config.opening
  | segments => Config.segments
  | entries => Config.entries
  | parser => Config.parser
  | notifier => Config.notifier
  | globals => Config.globals
  | player => Config.player
  | cvar => Config.cvar

def set : (home : Section) → Config → home.Record → Config
  | opening => fun config record => { config with opening := record }
  | segments => fun config record => { config with segments := record }
  | entries => fun config record => { config with entries := record }
  | parser => fun config record => { config with parser := record }
  | notifier => fun config record => { config with notifier := record }
  | globals => fun config record => { config with globals := record }
  | player => fun config record => { config with player := record }
  | cvar => fun config record => { config with cvar := record }

def fields : (home : Section) → List (Field home)
  | opening => [.maxHeaderOffset, .maxExports]
  | segments => [.code, .rodata]
  | entries => [.alignment, .padding]
  | parser => [.maxInstructions]
  | notifier => [.notifierAnchor, .notifierWindow, .callerExport]
  | globals => [.function, .scanWindow, .playerFieldOffset]
  | player => [.playerAnchor, .gettextExport, .callWindow, .minCalls, .gettextIndex, .resultIndex]
  | cvar => [.cvarAnchor, .cvarWindow, .accessorCallIndex]

def all : List Section :=
  [opening, segments, entries, parser, notifier, globals, player, cvar]

end Section

variable {home other : Section}

def Field.part : {home : Section} → Field home → Part home.Record
  | _, maxHeaderOffset =>
    .number "max_header_offset" max32 OpeningLimits.maxHeaderOffset
      fun limits n => { limits with maxHeaderOffset := n }
  | _, maxExports =>
    .number "max_exports" max64 OpeningLimits.maxExports
      fun limits n => { limits with maxExports := n }
  | _, code =>
    .text "code" SegmentNames.code fun names text => { names with code := text }
  | _, rodata =>
    .text "rodata" SegmentNames.rodata fun names text => { names with rodata := text }
  | _, alignment =>
    .number "alignment" max64 EntryConvention.alignment
      fun convention n => { convention with alignment := n }
  | _, padding =>
    .number "padding" max8 EntryConvention.padding
      fun convention n => { convention with padding := n }
  | _, maxInstructions =>
    .number "max_instructions" max64 ParserLimits.maxInstructions
      fun limits n => { limits with maxInstructions := n }
  | _, notifierAnchor =>
    .text "anchor" NotifierSettings.anchor fun settings text => { settings with anchor := text }
  | _, notifierWindow =>
    .number "entry_window" max64 NotifierSettings.entryWindow
      fun settings n => { settings with entryWindow := n }
  | _, callerExport =>
    .text "caller_export" NotifierSettings.callerExport
      fun settings text => { settings with callerExport := text }
  | _, function =>
    .text "export" GlobalsSettings.function
      fun settings text => { settings with function := text }
  | _, scanWindow =>
    .number "scan_window" max64 GlobalsSettings.scanWindow
      fun settings n => { settings with scanWindow := n }
  | _, playerFieldOffset =>
    .number "player_field_offset" max64 GlobalsSettings.playerFieldOffset
      fun settings n => { settings with playerFieldOffset := n }
  | _, playerAnchor =>
    .text "anchor" PlayerSettings.anchor fun settings text => { settings with anchor := text }
  | _, gettextExport =>
    .text "gettext_export" PlayerSettings.gettextExport
      fun settings text => { settings with gettextExport := text }
  | _, callWindow =>
    .number "call_window" max64 PlayerSettings.callWindow
      fun settings n => { settings with callWindow := n }
  | _, minCalls =>
    .number "min_calls" max64 PlayerSettings.minCalls
      fun settings n => { settings with minCalls := n }
  | _, gettextIndex =>
    .number "gettext_index" max64 PlayerSettings.gettextIndex
      fun settings n => { settings with gettextIndex := n }
  | _, resultIndex =>
    .number "result_index" max64 PlayerSettings.resultIndex
      fun settings n => { settings with resultIndex := n }
  | _, cvarAnchor =>
    .text "anchor" CvarSettings.anchor fun settings text => { settings with anchor := text }
  | _, cvarWindow =>
    .number "entry_window" max64 CvarSettings.entryWindow
      fun settings n => { settings with entryWindow := n }
  | _, accessorCallIndex =>
    .number "accessor_call_index" max64 CvarSettings.accessorCallIndex
      fun settings n => { settings with accessorCallIndex := n }

/-- The value of a field in a configuration. -/
def Field.value (field : Field home) (config : Config) : Value :=
  field.part.value (home.get config)

/-- Every number is in its range. -/
def Fits (config : Config) : Prop :=
  ∀ (home : Section) (field : Field home), field.part.Fits (home.get config)

namespace Section

theorem name_injective : Function.Injective name := by
  intro one two same
  cases one <;> cases two <;> first | rfl | exact absurd same (by decide)

theorem mem_all (home : Section) : home ∈ all := by
  cases home <;> decide

theorem get_set_self (home : Section) (config : Config) (record : home.Record) :
    home.get (home.set config record) = record := by
  cases home <;> rfl

theorem get_set_of_ne (apart : home ≠ other) (config : Config) (record : other.Record) :
    home.get (other.set config record) = home.get config := by
  cases home <;> cases other <;> first | rfl | exact absurd rfl apart

theorem config_ext {one two : Config} (same : ∀ home : Section, home.get one = home.get two) :
    one = two := by
  cases one
  cases two
  rw [Config.mk.injEq]
  exact ⟨same .opening, same .segments, same .entries, same .parser, same .notifier,
    same .globals, same .player, same .cvar⟩

end Section

namespace Field

theorem name_injective : Function.Injective fun field : Field home => field.part.name := by
  intro one two same
  cases one <;> cases two <;> first | rfl | exact absurd same (by decide)

theorem mem_fields (field : Field home) : field ∈ home.fields := by
  cases field <;> decide

theorem whole (field : Field home) : field.part.Whole := by
  cases field <;> first | exact trivial | (show _ ≤ _; decide)

theorem value_copy_self (field : Field home) (source target : home.Record) :
    field.part.value (field.part.copy source target) = field.part.value source := by
  cases field <;> rfl

theorem value_copy_of_ne {field given : Field home} (apart : field ≠ given)
    (source target : home.Record) :
    field.part.value (given.part.copy source target) = field.part.value target := by
  cases field <;> cases given <;> first | rfl | exact absurd rfl apart

end Field

/-! ## Taking fields over -/

/-- The target with some fields as they are in the source. -/
def Section.takeOver (source target : home.Record) (fields : List (Field home)) : home.Record :=
  fields.foldl (fun record field => field.part.copy source record) target

namespace Section

theorem value_takeOver (field : Field home) (source target : home.Record)
    (fields : List (Field home)) :
    field.part.value (takeOver source target fields) =
      if field ∈ fields then field.part.value source else field.part.value target := by
  induction fields generalizing target with
  | nil => rfl
  | cons given fields ih =>
    change field.part.value (takeOver source (given.part.copy source target) fields) = _
    rw [ih]
    by_cases same : field = given
    · subst same
      simp [field.value_copy_self]
    · simp [same, Field.value_copy_of_ne same]

theorem takeOver_fields (source target : home.Record) :
    takeOver source target home.fields = source := by
  cases home <;> rfl

/-- A record is what its fields hold. -/
theorem record_ext {one two : home.Record}
    (same : ∀ field : Field home, field.part.value one = field.part.value two) : one = two := by
  have copies (field : Field home) (record : home.Record) :
      field.part.copy one record = field.part.copy two record :=
    Part.copy_congr (same field) record
  -- All fields of `two` are taken over from `one`, and just as well from `two` itself.
  calc one = takeOver one two home.fields := (takeOver_fields one two).symm
    _ = takeOver two two home.fields := by simp only [takeOver, copies]
    _ = two := takeOver_fields two two

end Section

/-- A configuration is what its fields hold. -/
theorem ext_fields {one two : Config}
    (same : ∀ (home : Section) (field : Field home), field.value one = field.value two) :
    one = two :=
  Section.config_ext fun home => Section.record_ext (same home)

end Landmark.Config
