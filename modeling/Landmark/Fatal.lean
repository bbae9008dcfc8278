import Landmark.Image.Fault
import Landmark.JsonFormat

/-! # Fatal faults

A fatal fault makes the whole analysis void: the image is not what it should be, an
address lies outside what it should be in, or the configuration cannot be used. That a
symbol is absent is no fault in itself and becomes one only where it is required.
-/

namespace Landmark

/-- Why a configuration cannot be used. -/
inductive ConfigFault where
  /-- The text of the configuration could not be read. -/
  | unreadable (fault : JsonFormat.Fault)
  /-- The file of the configuration could not be read. -/
  | unreadableFile (path reason : String)
  /-- Entries cannot be aligned so. -/
  | alignment (step : Nat)
  /-- A window to search entries in is no multiple of their alignment. -/
  | window (size step : Nat)
  /-- The window of the notifier is no multiple of the alignment. -/
  | notifierWindow (size step : Nat)
  /-- The window of the variable constructor is no multiple of the alignment. -/
  | cvarWindow (size step : Nat)
  /-- No instruction may be decoded at all. -/
  | noInstructions
  /-- A call is asked for that the least number of calls does not include. -/
  | callIndices
  /-- A fault in the words of whoever found it. -/
  | stated (text : String)
  deriving DecidableEq

def ConfigFault.message : ConfigFault → String
  | unreadable fault => fault.message
  | unreadableFile path reason => "failed to read " ++ path ++ ": " ++ reason
  | alignment step => "entry alignment " ++ Hex.address step ++ " is not a power of two"
  | window size step =>
    "entry window " ++ Hex.address size ++ " is not a multiple of the alignment " ++
      Hex.address step
  | notifierWindow size step =>
    "notifier.entry_window (" ++ Hex.address size ++
      ") is not a multiple of the entry alignment (" ++ Hex.address step ++ ")"
  | cvarWindow size step =>
    "cvar.entry_window (" ++ Hex.address size ++
      ") is not a multiple of the entry alignment (" ++ Hex.address step ++ ")"
  | noInstructions => "parser.max_instructions must be non-zero"
  | callIndices => "player call indices must be below player.min_calls"
  | stated text => text

/-- A fault that makes the analysis void. -/
inductive Fatal where
  /-- The headers of a module could not be read. -/
  | malformedHeader (owner : String) (fault : Image.Fault)
  /-- The real header stands further into the image than allowed. -/
  | excessiveHeaderOffset (owner : String) (offset limit : Nat)
  /-- Two sections have one name. -/
  | duplicateSegment (owner name : String)
  /-- Two sections share addresses. -/
  | segmentOverlap (owner first second : String)
  /-- A section ends behind the image. -/
  | segmentOutsideImage (owner name : String) (stop imageStop : Nat)
  /-- An address is not strictly inside what it should be in. -/
  | addressOutOfBounds (scope : String) (address : Nat)
  /-- A segment that is needed is not there. -/
  | missingSegment (owner name : String)
  /-- The configuration cannot be used. -/
  | invalidConfig (fault : ConfigFault)
  /-- There is no image of the running program. -/
  | noHostImage (reason : String)
  /-- A required symbol could not be resolved. -/
  | unresolved (symbol reason : String)
  deriving DecidableEq

namespace Fatal

/-- The module that the fault was found in, where there is one. -/
def owner? : Fatal → Option String
  | malformedHeader owner _ | excessiveHeaderOffset owner _ _ | duplicateSegment owner _
  | segmentOverlap owner _ _ | segmentOutsideImage owner _ _ _ | missingSegment owner _ =>
    some owner
  | addressOutOfBounds _ _ | invalidConfig _ | noHostImage _ | unresolved _ _ => none

def message : Fatal → String
  | malformedHeader owner fault =>
    "malformed image header in " ++ owner ++ ": " ++ fault.message
  | excessiveHeaderOffset owner offset limit =>
    "header offset " ++ Hex.address offset ++ " in " ++ owner ++ " exceeds the maximum of " ++
      Hex.address limit
  | duplicateSegment owner name => "duplicate segment " ++ name ++ " in " ++ owner
  | segmentOverlap owner first second =>
    "segment " ++ first ++ " overlaps segment " ++ second ++ " in " ++ owner
  | segmentOutsideImage owner name stop imageStop =>
    "segment " ++ name ++ " in " ++ owner ++ " ends at " ++ Hex.address stop ++
      ", past the image end " ++ Hex.address imageStop
  | addressOutOfBounds scope address =>
    "address " ++ Hex.address address ++ " is out of bounds for " ++ scope
  | missingSegment owner name => "required segment " ++ name ++ " is missing from " ++ owner
  | invalidConfig fault => "invalid configuration: " ++ fault.message
  | noHostImage reason => "host image unavailable: " ++ reason
  | unresolved symbol reason => symbol ++ " could not be resolved: " ++ reason

end Fatal

end Landmark
