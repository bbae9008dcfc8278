import Landmark.Image.View

/-! # Blueprints of images

A blueprint says what an image in memory shall hold; building it lays out headers in
the first page, the export directory behind them and each section at its offset. The
image is a row of zeros with pieces written over it one after another, so a later
piece wins where two meet.
-/

namespace Landmark.Image

/-- A section to be laid out. -/
structure PlannedSection where
  name : String
  rva : Nat
  virtualSize : Nat
  content : Bytes
  characteristics : Nat

/-- What an image shall hold. -/
structure Blueprint where
  layout : Layout := .narrow
  base : Nat
  nextHeader : Nat := 0x80
  dosMagic : Nat := 0x5A4D
  sections : List PlannedSection := []
  exports : List (String × Nat) := []

/-- Bytes to be written at an offset. -/
abbrev Piece := Nat × Bytes

namespace PlannedSection

/-- A section as large as its content. -/
def exact (name : String) (rva : Nat) (content : Bytes) (characteristics : Nat) :
    PlannedSection :=
  { name, rva, virtualSize := content.length, content, characteristics }

/-- The offset behind the section. -/
def stop (planned : PlannedSection) : Nat :=
  planned.rva + max planned.virtualSize planned.content.length

/-- The entry of the section table at `offset`, and the content behind it. -/
def pieces (planned : PlannedSection) (offset : Nat) : List Piece :=
  [(offset, (Text.Utf8.encode planned.name).take 8),
   (offset + 8, Bytes.ofNat 4 planned.virtualSize),
   (offset + 12, Bytes.ofNat 4 planned.rva),
   (offset + 16, Bytes.ofNat 4 planned.content.length),
   (offset + 36, Bytes.ofNat 4 planned.characteristics),
   (planned.rva, planned.content)]

end PlannedSection

namespace Blueprint

/-- Bytes of the image: whole pages up to the end of its last section, at least one. -/
def size (blueprint : Blueprint) : Nat :=
  let stop := ((blueprint.sections.map PlannedSection.stop).max?).getD pageSize
  max ((stop + pageSize - 1) / pageSize) 1 * pageSize

/-- Where the export directory stands. -/
def exportPlace : Nat := 0xA00

/-- Where the functions, the names, the numbers and the texts of the exports stand. -/
def exportTables (count : Nat) : Nat × Nat × Nat × Nat :=
  let functions := exportPlace + 40
  let names := functions + count * 4
  let numbers := names + count * 4
  (functions, names, numbers, numbers + count * 2)

/-- The slots of the exports from number `number` on, whose texts start at `texts`. -/
def exportSlots (functions names numbers : Nat) :
    List (String × Nat) → (number texts : Nat) → List Piece
  | [], _, _ => []
  | (name, rva) :: rest, number, texts =>
    let text := Text.Utf8.encode name
    (functions + number * 4, Bytes.ofNat 4 rva) ::
    (names + number * 4, Bytes.ofNat 4 texts) ::
    (numbers + number * 2, Bytes.ofNat 2 number) ::
    (texts, text) ::
    exportSlots functions names numbers rest (number + 1) (texts + text.length + 1)

/-- The texts of the exports, each with the zero behind it. -/
def exportTexts (exports : List (String × Nat)) : Bytes :=
  exports.flatMap fun (name, _) => Text.Utf8.encode name ++ [0]

/-- The export directory and the entry that points to it, which stands at `entry`. -/
def exportPieces (blueprint : Blueprint) (entry : Nat) : List Piece :=
  if blueprint.exports.isEmpty then []
  else
    let count := blueprint.exports.length
    let (functions, names, numbers, texts) := exportTables count
    [(exportPlace + 16, Bytes.ofNat 4 1),
     (exportPlace + 20, Bytes.ofNat 4 count),
     (exportPlace + 24, Bytes.ofNat 4 count),
     (exportPlace + 28, Bytes.ofNat 4 functions),
     (exportPlace + 32, Bytes.ofNat 4 names),
     (exportPlace + 36, Bytes.ofNat 4 numbers)] ++
    exportSlots functions names numbers blueprint.exports 0 texts ++
    [(entry, Bytes.ofNat 4 exportPlace),
     (entry + 4, Bytes.ofNat 4 (texts + (exportTexts blueprint.exports).length - exportPlace))]

/-- Bytes of the optional header. -/
def optionalSize (blueprint : Blueprint) : Nat := blueprint.layout.fixedSize + 128

/-- The code of the machine. -/
def machineCode (blueprint : Blueprint) : Nat :=
  match blueprint.layout with
  | .narrow => 0x014C
  | .wide => 0x8664

/-- The image base, where the layout keeps it. -/
def basePiece (blueprint : Blueprint) (optional : Nat) : Piece :=
  match blueprint.layout with
  | .narrow => (optional + 28, Bytes.ofNat 4 blueprint.base)
  | .wide => (optional + 24, Bytes.ofNat 8 blueprint.base)

/-- The first header. -/
def dosPieces (blueprint : Blueprint) : List Piece :=
  [(0, Bytes.ofNat 2 blueprint.dosMagic), (60, Bytes.ofNat 4 blueprint.nextHeader)]

/-- The real header. -/
def headerPieces (blueprint : Blueprint) : List Piece :=
  let start := blueprint.nextHeader
  let optional := start + 24
  [(start, peSignature),
   (start + 4, Bytes.ofNat 2 blueprint.machineCode),
   (start + 6, Bytes.ofNat 2 blueprint.sections.length),
   (start + 20, Bytes.ofNat 2 blueprint.optionalSize),
   (optional, Bytes.ofNat 2 blueprint.layout.magic),
   blueprint.basePiece optional,
   (optional + blueprint.layout.fixedSize - 4, Bytes.ofNat 4 maxDirectories),
   (optional + 32, Bytes.ofNat 4 pageSize),
   (optional + 56, Bytes.ofNat 4 blueprint.size),
   (optional + 60, Bytes.ofNat 4 pageSize)]

/-- The section table from `offset` on, each entry with the content of its section. -/
def sectionPieces : List PlannedSection → (offset : Nat) → List Piece
  | [], _ => []
  | planned :: rest, offset =>
    planned.pieces offset ++ sectionPieces rest (offset + sectionHeaderSize)

/-- Everything written into the image, in order. Headers that do not fit are left out. -/
def pieces (blueprint : Blueprint) : List Piece :=
  if blueprint.size < blueprint.nextHeader + 0x200 then blueprint.dosPieces
  else
    let optional := blueprint.nextHeader + 24
    blueprint.dosPieces ++ blueprint.headerPieces ++
      blueprint.exportPieces (optional + blueprint.layout.fixedSize) ++
      sectionPieces blueprint.sections (optional + blueprint.optionalSize)

/-- The bytes of the image. -/
def build (blueprint : Blueprint) : Bytes :=
  blueprint.pieces.foldl (fun image (offset, piece) => image.overlay offset piece)
    (List.replicate blueprint.size 0)

/-- The image at its base. -/
def view (blueprint : Blueprint) : View :=
  { base := blueprint.base, bytes := blueprint.build }

end Blueprint

end Landmark.Image
