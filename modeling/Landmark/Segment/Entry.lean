import Landmark.Segment.Search

/-! # Candidate entries of functions

Compilers align functions and fill the room between them. Going back from an address
inside a function, every aligned address with filler in front of it, or at the start
of the segment, may be the entry. Most candidates are none; who asks cross-checks.
-/

namespace Landmark

open Log

/-- How functions are laid out. -/
structure EntryConvention where
  alignment : Nat
  /-- The byte between functions. -/
  padding : Nat
  deriving DecidableEq

namespace EntryConvention

/-- Whether a number is a power of two. -/
def isPowerOfTwo (n : Nat) : Bool := n != 0 && n &&& (n - 1) == 0

/-- Fails when functions cannot be aligned so. -/
def validate (convention : EntryConvention) : Except Fatal Unit :=
  if isPowerOfTwo convention.alignment then .ok ()
  else .error (.invalidConfig (.alignment convention.alignment))

/-- An address without the bits below the alignment. -/
def alignDown (convention : EntryConvention) (address : Nat) : Nat :=
  address - (address &&& (convention.alignment - 1))

/-- The aligned addresses from `top` down to `floor`. -/
def boundaries (convention : EntryConvention) (top floor : Nat) : List Nat :=
  if floor ≤ top then
    (List.range ((top - floor) / convention.alignment + 1)).map fun step =>
      top - step * convention.alignment
  else []

end EntryConvention

namespace Segment

/-- Whether a function may start at an address. -/
def mayStart (segment : Segment) (convention : EntryConvention) (address : Nat) : Bool :=
  address == segment.base ||
    (segment.byteBefore? address).map UInt8.toNat == some convention.padding

/-- The entries that an address may belong to, the nearest first, at most `window` bytes back
from where the address is aligned down to. -/
def entriesNear (segment : Segment) (convention : EntryConvention) (window address : Nat) :
    Except Fatal (List Nat) := do
  segment.checkBounds address
  convention.validate
  if window % convention.alignment ≠ 0 then
    throw (.invalidConfig (.window window convention.alignment))
  let top := convention.alignDown address
  let floor := max (top - window) segment.base
  return (convention.boundaries top floor).filter (segment.mayStart convention)

/-- The entries that some of the sites may belong to, each once. A site that is not strictly
inside has nothing in front of it and is passed over. -/
def entriesOf (segment : Segment) (convention : EntryConvention) (window : Nat)
    (sites : List Nat) : Except Fatal (List Nat) := do
  let found ← (sites.filter segment.contains).mapM (segment.entriesNear convention window)
  return found.flatten.eraseDups

/-- The entries around sites, reported. -/
def entriesAround (segment : Segment) (convention : EntryConvention) (window : Nat)
    (sites : List Nat) : Attempt Fatal (List Nat) := do
  let entries ← Attempt.ofExcept (segment.entriesOf convention window sites)
  Attempt.emit {
    level := .debug, target := "sigresolve::analysis::entries"
    message := "potential function entries"
    fields := [("segment", .quoted segment.name), ("sites", .number sites.length),
      ("candidates", .number entries.length)] }
  return entries

/-- The entries around every place that holds `target` as a pointer. -/
def entriesReferencing (segment : Segment) (convention : EntryConvention) (window target : Nat) :
    Attempt Fatal (List Nat) :=
  segment.entriesAround convention window (segment.references target)

/-- The entries around every occurrence of a byte string. -/
def entriesReferencingBytes (segment : Segment) (convention : EntryConvention) (window : Nat)
    (needle : Bytes) : Attempt Fatal (List Nat) :=
  segment.entriesAround convention window (segment.find needle)

end Segment

end Landmark
