import Landmark.Proofs.LoadedModule.Opening

/-! # Modules that reduction opens

Segments are sorted by a recursion that reduction cannot follow. A table that lists its
sections in the order of their addresses needs no sorting, and the module it opens as
can be computed. A specimen is a small image of that kind: two sections right behind
the headers, and one export.
-/

namespace Landmark

namespace LoadedModule

variable {name : String} {view : Image.View} {limits : OpeningLimits}

instance (header : Image.SectionHeader) : Decidable (Fits view header) :=
  inferInstanceAs (Decidable (header.rva + header.mappedSize ≤ view.bytes.length))

instance (sections : List Image.SectionHeader) : Decidable (Separable view sections) :=
  decidable_of_iff
    ((∀ header ∈ sections, Fits view header) ∧
      (sections.map Image.SectionHeader.name).Nodup)
    ⟨fun both => ⟨both.1, both.2⟩, fun apart => ⟨apart.fits, apart.distinct⟩⟩

def InFront (a b : Segment) : Prop := a.base ≤ b.base ∧ a.stop ≤ b.base

instance (a b : Segment) : Decidable (InFront a b) :=
  inferInstanceAs (Decidable (a.base ≤ b.base ∧ a.stop ≤ b.base))

/-- The module of an image whose table is in order. -/
def openInOrder? (name : String) (view : Image.View) (limits : OpeningLimits) :
    Option LoadedModule := do
  let dos ← (Image.readDosHeader view.bytes).toOption
  let outline ← (Image.readOutline view.bytes dos).toOption
  let exports ← (exportsOf view limits outline).toOption
  let segments := outline.sections.map (cut view (widthOf outline))
  if dos.nextHeader ≤ limits.maxHeaderOffset ∧ Separable view outline.sections ∧
      segments.Pairwise InFront then
    some { name, view, bits := widthOf outline, segments, exports }
  else none

theorem arranged_of_ascending {bits : Nat} {sections : List Image.SectionHeader}
    (ascending : (sections.map (cut view bits)).Pairwise fun a b => a.base ≤ b.base) :
    arranged view bits sections = sections.map (cut view bits) :=
  List.mergeSort_of_pairwise (by simpa only [decide_eq_true_eq] using ascending)

theorem load_of_openInOrder? {opened : LoadedModule}
    (computed : openInOrder? name view limits = some opened) :
    (load name view limits).result = .ok opened := by
  simp only [openInOrder?, Option.bind_eq_bind, Option.bind_eq_some_iff, toOption_eq_some_iff]
    at computed
  obtain ⟨dos, read, outline, follows, exports, exported, last⟩ := computed
  split at last
  next allowed =>
    obtain ⟨within, apart, inFront⟩ := allowed
    have same := arranged_of_ascending (inFront.imp And.left)
    have disjoint : (arranged view (widthOf outline) outline.sections).Pairwise
        fun a b => a.stop ≤ b.base := same ▸ inFront.imp And.right
    rw [result_load, build_of_disjoint ⟨dos, read, within, follows⟩ apart disjoint exported, same]
    exact congrArg Except.ok (Option.some.inj last)
  · cases last

end LoadedModule

/-! ## The specimen -/

namespace Specimen

def padded (size : Nat) (bytes : Bytes) : Bytes :=
  bytes ++ List.replicate (size - bytes.length) 0

/-- The two headers, the second with 104 bytes of optional header and one directory. -/
def headers : Bytes :=
  padded 60 [0x4D, 0x5A] ++ Bytes.ofNat 4 0x40 ++
  Image.peSignature ++ Bytes.ofNat 2 0x014C ++ padded 14 (Bytes.ofNat 2 2) ++
  Bytes.ofNat 4 104 ++ padded 92 (Bytes.ofNat 2 0x010B) ++ Bytes.ofNat 4 1 ++
  Bytes.ofNat 4 0x110 ++ Bytes.ofNat 4 0x50

def sectionEntry (name : String) (rva size characteristics : Nat) : Bytes :=
  padded 8 (Text.Utf8.encode name) ++ Bytes.ofNat 4 size ++ Bytes.ofNat 4 rva ++
  padded 20 (Bytes.ofNat 4 size) ++ Bytes.ofNat 4 characteristics

/-- A directory with one export, its tables and its text, at most thirty bytes of it. -/
def exports (name : String) (rva : Nat) : Bytes :=
  padded 16 [] ++ Bytes.ofNat 4 1 ++ Bytes.ofNat 4 1 ++ Bytes.ofNat 4 1 ++
  Bytes.ofNat 4 0x138 ++ Bytes.ofNat 4 0x13C ++ Bytes.ofNat 4 0x140 ++
  Bytes.ofNat 4 rva ++ Bytes.ofNat 4 0x142 ++ padded 2 [] ++
  padded 30 (Text.Utf8.encode name)

/-- An image at 0x400000 with `code` at offset 0x160 and `rodata` behind it. It exports the second
byte of the code. -/
def image (exported : String) (code rodata : Bytes) : Image.View :=
  { base := 0x400000
    bytes := headers ++ sectionEntry ".text" 0x160 code.length 0x60000020 ++
      sectionEntry ".rdata" (0x160 + code.length) rodata.length 0x40000040 ++
      exports exported 0x161 ++ code ++ rodata }

/-- An image in which every search comes to an end. The export calls 0x400188 and then the function
at 0x400170, which mentions the text, calls the export and then 0x400187, where the code behind
the compare of 0x400170 with zero starts. -/
def complete : Image.View :=
  image "c"
    ([0xCC, 0xE8, 0x22, 0, 0, 0, 0xE8, 0x05, 0, 0, 0, 0xC3, 0xCC, 0xCC, 0xCC, 0xCC] ++
      [0x68, 0x90, 0x01, 0x40, 0, 0xE8, 0xE7, 0xFF, 0xFF, 0xFF, 0xE8, 0x08, 0, 0, 0, 0xC3] ++
      [0x83, 0x3D, 0x70, 0x01, 0x40, 0, 0] ++ List.replicate 9 0xC3)
    (Text.Utf8.encode "CV")

def settings : Config where
  notifier := { anchor := "CV", callerExport := "c" }
  globals := { function := "c" }
  player := { anchor := "CV", gettextExport := "c", minCalls := 2, resultIndex := 1 }
  cvar := { anchor := "CV" }

end Specimen

end Landmark
