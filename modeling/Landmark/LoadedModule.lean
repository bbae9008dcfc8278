import Landmark.Config.Basic
import Landmark.Image.View
import Landmark.Routine.Basic

/-! # Loaded modules

A module is an image whose sections have been taken as segments: each lies inside the
image, no two have one name or share addresses, and they stand in the order of their
addresses. Opening one checks all that, and the first check that fails decides.
-/

namespace Landmark

open Log

/-- An image with its segments and exports. -/
structure LoadedModule where
  name : String
  view : Image.View
  /-- The width of addresses. -/
  bits : Nat
  /-- The segments, in the order of their addresses. -/
  segments : List Segment
  exports : Image.ExportTable

namespace LoadedModule

/-- The segment of a section whose bytes are `data`. -/
def segmentOf (view : Image.View) (bits : Nat) (header : Image.SectionHeader) (data : Bytes) :
    Segment :=
  Segment.withDefined {
    name := header.name
    base := view.base + header.rva
    data, bits
    permissions := header.permissions } header.rawSize

/-- Takes sections as segments, in the order of their table, given the segments taken already. -/
def takeSections (owner : String) (view : Image.View) (bits : Nat) :
    (taken : List Segment) → List Image.SectionHeader → Except Fatal (List Segment)
  | taken, [] => .ok taken
  | taken, header :: rest =>
    if taken.any fun segment => segment.name == header.name then
      .error (.duplicateSegment owner header.name)
    else
      match view.slice? header.rva header.mappedSize with
      | none =>
        .error (.segmentOutsideImage owner header.name
          (view.base + header.rva + header.mappedSize) view.stop)
      | some data =>
        takeSections owner view bits (taken ++ [segmentOf view bits header data]) rest

/-- The first two neighbours of which the first reaches into the second. -/
def overlap? : List Segment → Option (Segment × Segment)
  | first :: second :: rest =>
    if second.base < first.stop then some (first, second) else overlap? (second :: rest)
  | _ => none

/-- The part of the program that reports on modules. -/
def reporter : String := "sigresolve::core::module"

/-- The segments of a section table, in the order of their addresses. -/
def segmentsOf (owner : String) (view : Image.View) (bits : Nat)
    (sections : List Image.SectionHeader) : Except Fatal (List Segment) := do
  let taken ← takeSections owner view bits [] sections
  let segments := taken.mergeSort fun a b => a.base ≤ b.base
  match overlap? segments with
  | some (first, second) => throw (.segmentOverlap owner first.name second.name)
  | none => return segments

/-- Opens an image as a module, saying nothing. -/
def build (name : String) (view : Image.View) (limits : OpeningLimits) :
    Except Fatal LoadedModule := do
  let dos ← (Image.readDosHeader view.bytes).mapError (.malformedHeader name)
  if limits.maxHeaderOffset < dos.nextHeader then
    throw (.excessiveHeaderOffset name dos.nextHeader limits.maxHeaderOffset)
  let outline ← (Image.readOutline view.bytes dos).mapError (.malformedHeader name)
  let bits := outline.headers.optional.layout.bits
  let segments ← segmentsOf name view bits outline.sections
  let exports ←
    (Image.readExports view.bytes (outline.headers.directory 0) limits.maxExports).mapError
      (.malformedHeader name)
  return { name, view, bits, segments, exports }

/-- Opens an image as a module. -/
def load (name : String) (view : Image.View) (limits : OpeningLimits) :
    Attempt Fatal LoadedModule := do
  let opened ← Attempt.ofExcept (build name view limits)
  Attempt.emit {
    level := .debug, target := reporter, message := "module opened"
    fields := [("module", .shown name), ("base", .address view.base),
      ("bitness", .number opened.bits), ("segments", .number opened.segments.length),
      ("exports", .number opened.exports.size)] }
  return opened

variable (owner : LoadedModule)

/-- The address of the image. -/
def base : Nat := owner.view.base

/-- The segment of a name. -/
def segment? (name : String) : Option Segment :=
  owner.segments.find? fun segment => segment.name == name

/-- Whether there is a segment of a name. -/
def hasSegment (name : String) : Bool := (owner.segment? name).isSome

/-- The segment of a name, which has to be there. -/
def requireSegment (name : String) : Except Fatal Segment :=
  match owner.segment? name with
  | some segment => .ok segment
  | none => .error (.missingSegment owner.name name)

/-- The segment that an address lies strictly in. Of the segments in order it can only be the
last that starts below the address, or the first that does not. -/
def segmentAt? (address : Nat) : Option Segment :=
  let below := owner.segments.takeWhile fun segment => segment.base < address
  let above := owner.segments.dropWhile fun segment => segment.base < address
  match above.head?.filter fun segment => segment.contains address with
  | some segment => some segment
  | none => below.getLast?.filter fun segment => segment.contains address

/-- Whether an address lies strictly in some segment. -/
def contains (address : Nat) : Bool := (owner.segmentAt? address).isSome

/-- What to call the module when an address lies outside. -/
def scope : String := "module " ++ owner.name

/-- The segment that an address lies strictly in, which has to be there. -/
def requireSegmentAt (address : Nat) : Except Fatal Segment :=
  match owner.segmentAt? address with
  | some segment => .ok segment
  | none => .error (.addressOutOfBounds owner.scope address)

/-- Fails when an address lies in no segment. -/
def checkBounds (address : Nat) : Except Fatal Unit :=
  if owner.contains address then .ok () else .error (.addressOutOfBounds owner.scope address)

/-- The address of an exported function that is not forwarded. -/
def export? (name : String) : Option Nat :=
  (owner.exports.find? name).bind fun entry =>
    if entry.forwarder.isSome then none else some (owner.base + entry.rva)

/-- The address of an exported function, which has to lie in some segment. -/
def function? (name : String) : Attempt Fatal (Option Nat) :=
  match owner.export? name with
  | some address => do
    Attempt.ofExcept (owner.checkBounds address)
    return some address
  | none => do
    Attempt.emit {
      level := .debug, target := reporter, message := "export not found"
      fields := [("module", .shown owner.name), ("export", .quoted name)] }
    return none

variable [Decoder]

/-- Reconstructs the function at an address, which has to lie in some segment. That the
function cannot be reconstructed is no fault. -/
def routineAt? (address limit : Nat) : Attempt Fatal (Option Routine) := do
  let segment ← Attempt.ofExcept (owner.requireSegmentAt address)
  let parsed := Routine.parse segment (.ofBits owner.bits) address limit
  match ← ExceptT.lift parsed.outcome with
  | .ok routine => return some routine
  | .error failure =>
    Attempt.emit {
      level := .debug, target := reporter, message := "function parse failed"
      fields := [("module", .shown owner.name), ("entry", .address address),
        ("failure", .shown failure.message)] }
    return none

/-- Reconstructs an exported function. -/
def exportedRoutine? (name : String) (limit : Nat) : Attempt Fatal (Option Routine) := do
  match ← owner.function? name with
  | some address => owner.routineAt? address limit
  | none =>
    Attempt.emit {
      level := .warn, target := reporter, message := "cannot parse missing export"
      fields := [("module", .shown owner.name), ("export", .quoted name)] }
    return none

end LoadedModule

end Landmark
