import Landmark.Config.Basic
import Landmark.JsonFormat
import Landmark.Text.Utf8

/-! # Configurations as JSON text

A configuration is a record of records. Whatever a text leaves out keeps its default,
and a text that reads is refused when the configuration cannot be used.
-/

namespace Landmark.Config

open JsonFormat

variable [JsonFormat]

/-- The largest number of eight bits. -/
def max8 : Nat := 0xFF

/-- The largest number of 32 bits. -/
def max32 : Nat := 0xFFFFFFFF

/-- The largest number of 64 bits. -/
def max64 : Nat := 0xFFFFFFFFFFFFFFFF

def openingSlots : List (Slot OpeningLimits) :=
  [.ofNat "max_header_offset" max32 OpeningLimits.maxHeaderOffset
     fun limits n => { limits with maxHeaderOffset := n },
   .ofNat "max_exports" max64 OpeningLimits.maxExports
     fun limits n => { limits with maxExports := n }]

def segmentSlots : List (Slot SegmentNames) :=
  [.ofText "code" SegmentNames.code fun names text => { names with code := text },
   .ofText "rodata" SegmentNames.rodata fun names text => { names with rodata := text }]

def entrySlots : List (Slot EntryConvention) :=
  [.ofNat "alignment" max64 EntryConvention.alignment
     fun convention n => { convention with alignment := n },
   .ofNat "padding" max8 EntryConvention.padding
     fun convention n => { convention with padding := n }]

def parserSlots : List (Slot ParserLimits) :=
  [.ofNat "max_instructions" max64 ParserLimits.maxInstructions
     fun limits n => { limits with maxInstructions := n }]

def notifierSlots : List (Slot NotifierSettings) :=
  [.ofText "anchor" NotifierSettings.anchor fun settings text => { settings with anchor := text },
   .ofNat "entry_window" max64 NotifierSettings.entryWindow
     fun settings n => { settings with entryWindow := n },
   .ofText "caller_export" NotifierSettings.callerExport
     fun settings text => { settings with callerExport := text }]

def globalsSlots : List (Slot GlobalsSettings) :=
  [.ofText "export" GlobalsSettings.function
     fun settings text => { settings with function := text },
   .ofNat "scan_window" max64 GlobalsSettings.scanWindow
     fun settings n => { settings with scanWindow := n },
   .ofNat "player_field_offset" max64 GlobalsSettings.playerFieldOffset
     fun settings n => { settings with playerFieldOffset := n }]

def playerSlots : List (Slot PlayerSettings) :=
  [.ofText "anchor" PlayerSettings.anchor fun settings text => { settings with anchor := text },
   .ofText "gettext_export" PlayerSettings.gettextExport
     fun settings text => { settings with gettextExport := text },
   .ofNat "call_window" max64 PlayerSettings.callWindow
     fun settings n => { settings with callWindow := n },
   .ofNat "min_calls" max64 PlayerSettings.minCalls
     fun settings n => { settings with minCalls := n },
   .ofNat "gettext_index" max64 PlayerSettings.gettextIndex
     fun settings n => { settings with gettextIndex := n },
   .ofNat "result_index" max64 PlayerSettings.resultIndex
     fun settings n => { settings with resultIndex := n }]

def cvarSlots : List (Slot CvarSettings) :=
  [.ofText "anchor" CvarSettings.anchor fun settings text => { settings with anchor := text },
   .ofNat "entry_window" max64 CvarSettings.entryWindow
     fun settings n => { settings with entryWindow := n },
   .ofNat "accessor_call_index" max64 CvarSettings.accessorCallIndex
     fun settings n => { settings with accessorCallIndex := n }]

def slots : List (Slot Config) :=
  [.ofRecord "module" openingSlots {} Config.opening
     fun config part => { config with opening := part },
   .ofRecord "segments" segmentSlots {} Config.segments
     fun config part => { config with segments := part },
   .ofRecord "entries" entrySlots .usual Config.entries
     fun config part => { config with entries := part },
   .ofRecord "parser" parserSlots {} Config.parser
     fun config part => { config with parser := part },
   .ofRecord "notifier" notifierSlots {} Config.notifier
     fun config part => { config with notifier := part },
   .ofRecord "globals" globalsSlots {} Config.globals
     fun config part => { config with globals := part },
   .ofRecord "player" playerSlots {} Config.player
     fun config part => { config with player := part },
   .ofRecord "cvar" cvarSlots {} Config.cvar
     fun config part => { config with cvar := part }]

/-- Reads a configuration without asking whether it can be used. -/
def read (text : String) : Except ConfigFault Config :=
  (readWhole slots {} text).mapError .unreadable

/-- Reads a configuration that can be used. -/
def ofText (text : String) : Except ConfigFault Config := do
  let config ← read text
  config.validate
  return config

/-- What reading a file came to. -/
inductive FileContent where
  /-- The file is not there. -/
  | missing
  | bytes (content : Bytes)

/-- Why there is nothing at a path: a path with a zero character in it can name no file at all. -/
def absence (path : String) : String :=
  if path.toList.contains '\x00' then "file name contained an unexpected NUL byte"
  else "No such file or directory (os error 2)"

/-- Reads a configuration that can be used from what the file at `path` holds. -/
def ofFile (path : String) : FileContent → Except ConfigFault Config
  | .missing => .error (.unreadableFile path (absence path))
  | .bytes content =>
    match Text.Utf8.decode? content with
    | none => .error (.unreadableFile path "stream did not contain valid UTF-8")
    | some text => ofText text

/-- Writes a configuration. -/
def write (config : Config) : String := String.ofList (writeRecord slots config)

end Landmark.Config
