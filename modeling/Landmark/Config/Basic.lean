import Landmark.Segment.Entry

/-! # Configuration

Everything that the search for symbols assumes of a program: names of segments and
exports, texts that functions are known to mention, windows and positions. The
defaults describe the program that the search was made for.
-/

namespace Landmark

/-- Limits for opening a module. -/
structure OpeningLimits where
  /-- How far into the image the real header may stand. -/
  maxHeaderOffset : Nat := 1024
  /-- How many exports are read. -/
  maxExports : Nat := 65536
  deriving DecidableEq

/-- The names of the segments that are searched. -/
structure SegmentNames where
  code : String := ".text"
  rodata : String := ".rdata"
  deriving DecidableEq

/-- The usual layout of functions. -/
def EntryConvention.usual : EntryConvention := { alignment := 16, padding := 0xCC }

/-- Limits for reconstructing functions. -/
structure ParserLimits where
  maxInstructions : Nat := 10000
  deriving DecidableEq

/-- How the notifier is found. -/
structure NotifierSettings where
  /-- The text that the function mentions. -/
  anchor : String := "Notifier::notify"
  /-- How far back entries are looked for. -/
  entryWindow : Nat := 0x200
  /-- The exported function that calls it. -/
  callerExport : String := "?addResource@Block@@QAEMMU?$tvec2@M$0A@@glm@@@Z"
  deriving DecidableEq

/-- How the globals are found. -/
structure GlobalsSettings where
  /-- The exported function that tests one of them. -/
  function : String := "?launchUpdate@Block@@AAE_NI@Z"
  /-- How far into it the test is looked for. -/
  scanWindow : Nat := 0x380
  /-- Where the one that is tested stands among them. -/
  playerFieldOffset : Nat := 0
  deriving DecidableEq

/-- How the message function of the player is found. -/
structure PlayerSettings where
  /-- The text that is mentioned in front of the calls. -/
  anchor : String := "Unlocked Faction"
  /-- The exported function that is called among them. -/
  gettextExport : String := "?gettext_@@YAPBDPBD@Z"
  /-- How far behind the mention calls are looked for. -/
  callWindow : Nat := 0x40
  /-- How many calls there are at least. -/
  minCalls : Nat := 3
  /-- Which of them calls the exported function. -/
  gettextIndex : Nat := 0
  /-- Which of them calls the function that is looked for. -/
  resultIndex : Nat := 2
  deriving DecidableEq

/-- How the index accessor of the variables is found. -/
structure CvarSettings where
  /-- The text that the constructor mentions. -/
  anchor : String := "CVarBase::CVarBase"
  /-- How far back entries are looked for. -/
  entryWindow : Nat := 0x200
  /-- Which of the constructor's calls is the accessor. -/
  accessorCallIndex : Nat := 1
  deriving DecidableEq

/-- What the search for symbols assumes of a program. -/
structure Config where
  opening : OpeningLimits := {}
  segments : SegmentNames := {}
  entries : EntryConvention := .usual
  parser : ParserLimits := {}
  notifier : NotifierSettings := {}
  globals : GlobalsSettings := {}
  player : PlayerSettings := {}
  cvar : CvarSettings := {}
  deriving DecidableEq

namespace Config

/-- What is wrong with a configuration, the first thing that is. -/
def fault? (config : Config) : Option ConfigFault :=
  let step := config.entries.alignment
  if !EntryConvention.isPowerOfTwo step then some (.alignment step)
  else if config.notifier.entryWindow % step ≠ 0 then
    some (.notifierWindow config.notifier.entryWindow step)
  else if config.cvar.entryWindow % step ≠ 0 then
    some (.cvarWindow config.cvar.entryWindow step)
  else if config.parser.maxInstructions = 0 then some .noInstructions
  else if config.player.minCalls ≤ config.player.resultIndex ∨
      config.player.minCalls ≤ config.player.gettextIndex then some .callIndices
  else none

/-- Fails when the configuration cannot be used. -/
def validate (config : Config) : Except ConfigFault Unit :=
  match config.fault? with
  | some fault => .error fault
  | none => .ok ()

end Config

end Landmark
