import Landmark.Text.Shown

/-! # Faults of an image

Why a header, a directory or a name of an image could not be read.
-/

namespace Landmark.Image

/-- Why part of an image could not be read. -/
inductive Fault where
  /-- The image does not begin with `MZ`. -/
  | missingDosSignature
  /-- The new header does not begin with its signature. -/
  | missingPeSignature
  /-- The optional header is of neither layout. -/
  | unknownMagic (magic : Nat)
  /-- A header does not fit into what is mapped, or into the size declared for it. -/
  | truncatedHeader (expected actual : Nat)
  /-- A directory lies outside the image. -/
  | outsideImage (rva : Nat)
  /-- A read runs past the end. -/
  | pastEnd (offset : Nat)
  /-- The tables of the export directory contradict each other. -/
  | inconsistentExports
  /-- A name does not end, or is no text. -/
  | badName
  deriving DecidableEq

def Fault.message : Fault → String
  | missingDosSignature => "missing MZ signature"
  | missingPeSignature => "missing PE\\0\\0 signature"
  | unknownMagic magic => "unknown optional header magic " ++ Hex.paddedAddress 6 magic
  | truncatedHeader expected actual =>
    "header needs " ++ expected.repr ++ " bytes but only " ++ actual.repr ++ " are mapped"
  | outsideImage rva => "rva " ++ Hex.paddedAddress 10 rva ++ " is outside the image"
  | pastEnd offset => "read at offset " ++ Hex.address offset ++ " runs past the image"
  | inconsistentExports => "export directory is inconsistent"
  | badName => "name is not NUL-terminated UTF-8"

end Landmark.Image
