import Landmark.Proofs.Image.Reorder
import Landmark.Proofs.LoadedModule.Location
import Landmark.Proofs.LoadedModule.Specimen

/-! # The order of the section table

Modules whose images differ in the order of the section table, and nowhere else, have the same
segments and answer alike, as long as nothing is read from the table but the sections. Whether such
an image is accepted does not depend on the order either, unless an empty section stands where
another section does: then the empty one has to come first.
-/

namespace Landmark

namespace LoadedModule

open Log

variable {name : String} {view other : Image.View} {limits : OpeningLimits}
  {dos : Image.DosHeader} {outline again : Image.Outline} {opened twin : LoadedModule}

/-- Whatever is asked by name or by address is answered alike. -/
structure Answers (one other : LoadedModule) : Prop where
  segment : ∀ name, one.segment? name = other.segment? name
  segmentAt : ∀ address, one.segmentAt? address = other.segmentAt? address
  exported : ∀ name, one.export? name = other.export? name
  function : ∀ name, one.function? name = other.function? name

/-- Two images that are the same but for the order of the section table, of which no section takes
a byte. -/
structure Shuffled (view other : Image.View) (dos : Image.DosHeader) (outline : Image.Outline) :
    Prop where
  read : Image.readDosHeader view.bytes = .ok dos
  follows : Image.readOutline view.bytes dos = .ok outline
  reordered : Image.Reordered view other outline.headers
  unmapped : ∀ header ∈ outline.sections,
    ∀ place ∈ Set.Ico header.rva (header.rva + header.mappedSize),
      place ∉ outline.headers.tablePlaces

/-- Nothing that the exports are read from stands in the section table. -/
structure ExportsApart (view : Image.View) (limits : OpeningLimits) (dos : Image.DosHeader)
    (outline : Image.Outline) : Prop where
  slot : ∀ place ∈ outline.headers.exportSlotPlaces dos.nextHeader,
    place ∉ outline.headers.tablePlaces
  places : ∀ place ∈ Image.exportPlaces view.bytes (outline.headers.directory 0) limits.maxExports,
    place ∉ outline.headers.tablePlaces

/-- No section without bytes stands where another section does. -/
def Grounded (sections : List Image.SectionHeader) : Prop :=
  sections.Pairwise fun a b => a.rva = b.rva → 0 < a.mappedSize ∧ 0 < b.mappedSize

theorem answers_of_perm {one other : LoadedModule} (name : one.name = other.name)
    (base : one.base = other.base) (exports : one.exports = other.exports)
    (same : one.segments.Perm other.segments)
    (distinct : one.segments.Pairwise fun a b => a.name ≠ b.name)
    (disjoint : one.segments.Pairwise fun a b => a.stop ≤ b.base)
    (disjointAgain : other.segments.Pairwise fun a b => a.stop ≤ b.base) : Answers one other := by
  have distinctAgain := (same.pairwise_iff fun apart => apart.symm).mp distinct
  have segmentAt : ∀ address, one.segmentAt? address = other.segmentAt? address := by
    intro address
    ext segment
    rw [segmentAt?_eq_some_iff disjoint, segmentAt?_eq_some_iff disjointAgain, same.mem_iff]
  have exported : ∀ name, one.export? name = other.export? name := by
    intro name
    rw [export?, export?, exports, base]
  refine { segment := ?_, segmentAt, exported, function := ?_ }
  · intro name
    ext segment
    rw [segment?_eq_some_iff distinct, segment?_eq_some_iff distinctAgain, same.mem_iff]
  · intro wanted
    simp only [function?, checkBounds, contains, scope, exported, segmentAt, name]
    rfl

/-! ## When an image is accepted -/

theorem load_eq_ok_iff (read : Image.readDosHeader view.bytes = .ok dos)
    (follows : Image.readOutline view.bytes dos = .ok outline) :
    (load name view limits).result = .ok opened ↔
      dos.nextHeader ≤ limits.maxHeaderOffset ∧ Separable view outline.sections ∧
        ((arranged view (widthOf outline) outline.sections).Pairwise fun a b => a.stop ≤ b.base) ∧
        ∃ exports, exportsOf view limits outline = .ok exports ∧ opened = {
          name, view, exports
          bits := widthOf outline
          segments := arranged view (widthOf outline) outline.sections } := by
  rw [result_load]
  constructor
  · intro accepted
    rcases rejects_or_disjoint name view limits with
      ⟨fault, rejects⟩ | ⟨found, exports, outlined, apart, disjoint, exported⟩
    · cases (build_of_rejects rejects).symm.trans accepted
    have built := @build_of_disjoint name view limits _ _ outlined apart disjoint exported
    obtain ⟨first, same, allowed, outline_eq⟩ := outlined
    obtain rfl := Except.ok.inj (same.symm.trans read)
    obtain rfl := Except.ok.inj (outline_eq.symm.trans follows)
    exact ⟨allowed, apart, disjoint, exports, exported,
      Except.ok.inj (accepted.symm.trans built)⟩
  · rintro ⟨allowed, apart, disjoint, exports, exported, rfl⟩
    exact build_of_disjoint ⟨dos, read, allowed, follows⟩ apart disjoint exported

/-- Segments that take no bytes of each other are sorted in one way only. -/
theorem mergeSort_eq_of_perm {row shuffled : List Segment} (same : row.Perm shuffled)
    (grounded : row.Pairwise fun a b => a.base = b.base → 0 < a.size ∧ 0 < b.size)
    (disjoint : (row.mergeSort fun a b => a.base ≤ b.base).Pairwise fun a b => a.stop ≤ b.base) :
    (row.mergeSort fun a b => a.base ≤ b.base) =
      shuffled.mergeSort fun a b => a.base ≤ b.base := by
  have sorted := List.mergeSort_perm row fun a b => a.base ≤ b.base
  have apart : (row.mergeSort fun a b => a.base ≤ b.base).Pairwise fun a b => a.base ≠ b.base := by
    have solid := (sorted.pairwise_iff fun one equal => (one equal.symm).symm).mpr grounded
    refine (disjoint.and solid).imp fun both equal => ?_
    have taken := (both.2 equal).1
    have ends := both.1
    unfold Segment.stop at ends
    omega
  have distinct : ((row.mergeSort fun a b => a.base ≤ b.base).map Segment.base).Nodup :=
    List.pairwise_map.mpr apart
  have sortedAgain := List.mergeSort_perm shuffled fun a b => a.base ≤ b.base
  have perm := sorted.trans (same.trans sortedAgain.symm)
  refine perm.eq_of_pairwise (fun a b left right above below => ?_)
    (Extent.ascending_mergeSort row) (Extent.ascending_mergeSort shuffled)
  have inRow := perm.mem_iff.mpr right
  exact List.inj_on_of_nodup_map distinct left inRow (Nat.le_antisymm above below)

/-! ## Two images -/

/-- Two images with the same sections, of which one may list them in another order. -/
structure Alike (view other : Image.View) (limits : OpeningLimits)
    (outline again : Image.Outline) : Prop where
  base : view.base = other.base
  length : view.bytes.length = other.bytes.length
  width : widthOf outline = widthOf again
  sections : outline.sections.Perm again.sections
  cuts : ∀ bits, ∀ header ∈ outline.sections, cut view bits header = cut other bits header
  exports : exportsOf view limits outline = exportsOf other limits again

theorem alike_of_shuffled (shuffled : Shuffled view other dos outline)
    (apart : ExportsApart view limits dos outline) :
    Alike view other limits outline (Image.outlineAt other.bytes dos.nextHeader) := by
  obtain ⟨read, follows, reordered, unmapped⟩ := shuffled
  have slot := reordered.exportDirectory_eq read follows apart.slot
  obtain ⟨_, _, same⟩ := reordered.sameFront read follows
  obtain ⟨_, shape⟩ := Image.readOutline_eq_ok_iff.mp follows
  refine {
    base := reordered.base
    length := reordered.elsewhere.length
    width := shape ▸ congrArg (fun optional => optional.layout.bits) same.optional
    sections := reordered.sections_perm read follows
    cuts := ?_
    exports := ?_ }
  · intro bits header member
    have window := Image.window_eq_of_agreeOn reordered.elsewhere (unmapped header member)
    rw [cut, cut, segmentOf, segmentOf, window, reordered.base]
  · rw [exportsOf, exportsOf, ← slot]
    exact Image.readExports_eq_of_agreeOn reordered.elsewhere apart.places

namespace Alike

variable (alike : Alike view other limits outline again)
include alike

theorem symm : Alike other view limits again outline where
  base := alike.base.symm
  length := alike.length.symm
  width := alike.width.symm
  sections := alike.sections.symm
  cuts := fun bits header member =>
    (alike.cuts bits header (alike.sections.mem_iff.mpr member)).symm
  exports := alike.exports.symm

theorem separable (apart : Separable view outline.sections) : Separable other again.sections where
  fits := fun header member => by
    have fits := apart.fits header (alike.sections.mem_iff.mpr member)
    unfold Fits at fits ⊢
    rwa [← alike.length]
  distinct := (alike.sections.map _).nodup_iff.mp apart.distinct

theorem cuts_perm (bits : Nat) :
    (outline.sections.map (cut view bits)).Perm (again.sections.map (cut other bits)) := by
  rw [List.map_congr_left (alike.cuts bits)]
  exact alike.sections.map _

theorem arranged_eq {bits : Nat} (grounded : Grounded outline.sections)
    (apart : Separable view outline.sections)
    (disjoint : (arranged view bits outline.sections).Pairwise fun a b => a.stop ≤ b.base) :
    arranged view bits outline.sections = arranged other bits again.sections := by
  refine mergeSort_eq_of_perm (alike.cuts_perm bits) (List.pairwise_map.mpr ?_) disjoint
  refine grounded.imp_of_mem fun {a b} left right solid equal => ?_
  have size : ∀ header ∈ outline.sections, (cut view bits header).size = header.mappedSize :=
    fun header member => (apart.fits header member).mirrors.size
  rw [size a left, size b right]
  exact solid (Nat.add_left_cancel equal)

section Loads

variable (read : Image.readDosHeader view.bytes = .ok dos)
  (follows : Image.readOutline view.bytes dos = .ok outline)
  (readAgain : Image.readDosHeader other.bytes = .ok dos)
  (followsAgain : Image.readOutline other.bytes dos = .ok again)
include read follows readAgain followsAgain

/-- The segments of both modules, once they are known to be sorted alike. -/
theorem exists_load (grounded : Grounded outline.sections)
    (accepted : (load name view limits).result = .ok opened) :
    ∃ twin, (load name other limits).result = .ok twin ∧ twin.segments = opened.segments := by
  obtain ⟨allowed, apart, disjoint, exports, exported, rfl⟩ :=
    (load_eq_ok_iff read follows).mp accepted
  have sorted := alike.arranged_eq grounded apart disjoint
  rw [sorted, alike.width] at disjoint
  refine ⟨_, (load_eq_ok_iff readAgain followsAgain).mpr ⟨allowed, alike.separable apart, disjoint,
    exports, alike.exports ▸ exported, rfl⟩, ?_⟩
  dsimp only
  rw [sorted, alike.width]

theorem answers_of_load (accepted : (load name view limits).result = .ok opened)
    (acceptedAgain : (load name other limits).result = .ok twin) :
    opened.segments.Perm twin.segments ∧ Answers opened twin := by
  obtain ⟨_, _, shows⟩ := represents_of_load accepted
  obtain ⟨_, _, showsAgain⟩ := represents_of_load acceptedAgain
  obtain ⟨_, _, _, exports, exported, rfl⟩ := (load_eq_ok_iff read follows).mp accepted
  obtain ⟨_, _, _, exportsAgain, exportedAgain, rfl⟩ :=
    (load_eq_ok_iff readAgain followsAgain).mp acceptedAgain
  have table := exported.symm.trans (alike.exports.trans exportedAgain)
  have same : (arranged view (widthOf outline) outline.sections).Perm
      (arranged other (widthOf again) again.sections) := by
    rw [← alike.width]
    exact (arranged_perm _).trans ((alike.cuts_perm _).trans (arranged_perm _).symm)
  exact ⟨same, answers_of_perm rfl alike.base (Except.ok.inj table) same shows.distinct
    shows.disjoint showsAgain.disjoint⟩

end Loads

end Alike

/-- **The order of the section table does not matter** for what an accepted image answers, nor,
where no empty section stands at another one, for whether it is accepted and in which order its
segments are kept. -/
theorem load_shuffled (shuffled : Shuffled view other dos outline)
    (apart : ExportsApart view limits dos outline) :
    (∀ opened twin, (load name view limits).result = .ok opened →
      (load name other limits).result = .ok twin →
      opened.segments.Perm twin.segments ∧ Answers opened twin) ∧
    (Grounded outline.sections →
      ((∃ opened, (load name view limits).result = .ok opened) ↔
        ∃ twin, (load name other limits).result = .ok twin) ∧
      ∀ opened twin, (load name view limits).result = .ok opened →
        (load name other limits).result = .ok twin → opened.segments = twin.segments) := by
  have alike := alike_of_shuffled shuffled apart
  obtain ⟨read, follows, reordered, _⟩ := shuffled
  obtain ⟨readAgain, followsAgain, _⟩ := reordered.sameFront read follows
  refine ⟨fun opened twin => alike.answers_of_load read follows readAgain followsAgain,
    fun grounded => ⟨⟨?_, ?_⟩, ?_⟩⟩
  · rintro ⟨opened, accepted⟩
    obtain ⟨twin, accepted, _⟩ :=
      alike.exists_load read follows readAgain followsAgain grounded accepted
    exact ⟨twin, accepted⟩
  · rintro ⟨twin, accepted⟩
    have groundedAgain : Grounded _ :=
      (alike.sections.pairwise_iff fun one equal => (one equal.symm).symm).mp grounded
    obtain ⟨opened, accepted, _⟩ :=
      alike.symm.exists_load readAgain followsAgain read follows groundedAgain accepted
    exact ⟨opened, accepted⟩
  · intro opened twin accepted acceptedAgain
    obtain ⟨found, loaded, same⟩ :=
      alike.exists_load read follows readAgain followsAgain grounded accepted
    obtain rfl := Except.ok.inj (loaded.symm.trans acceptedAgain)
    exact same.symm

/-! ## Tables of two entries -/

/-- What stands in front of the sections, when it can be read. -/
def shape? (view : Image.View) : Option (Image.DosHeader × Image.Outline) := do
  let dos ← (Image.readDosHeader view.bytes).toOption
  let outline ← (Image.readOutline view.bytes dos).toOption
  return (dos, outline)

theorem of_shape? (found : shape? view = some (dos, outline)) :
    Image.readDosHeader view.bytes = .ok dos ∧ Image.readOutline view.bytes dos = .ok outline := by
  simp only [shape?, Option.bind_eq_bind, Option.bind_eq_some_iff, toOption_eq_some_iff,
    Option.pure_def, Option.some.injEq, Prod.mk.injEq] at found
  obtain ⟨_, read, _, follows, rfl, rfl⟩ := found
  exact ⟨read, follows⟩

/-- The table stands at 0xC0 and has two entries, and their sections stand behind it. -/
structure Fitting (outline : Image.Outline) : Prop where
  table : outline.headers.sectionTable = 0xC0
  count : outline.headers.file.sectionCount = 2
  behind : ∀ header ∈ outline.sections, 0x110 ≤ header.rva

/-- There is room for the directory of exports, and all of them stand behind the table. -/
structure ExportsFitting (view : Image.View) (dos : Image.DosHeader) (outline : Image.Outline) :
    Prop where
  slot : outline.headers.directoriesFrom dos.nextHeader + 8 ≤ 0xC0
  behind : Image.ExportsBehind view.bytes (outline.headers.directory 0)
    (Image.exportDirectoryAt view.bytes (outline.headers.directory 0).rva 0x10000) 0x110

instance (outline : Image.Outline) : Decidable (Fitting outline) :=
  decidable_of_iff
    (outline.headers.sectionTable = 0xC0 ∧ outline.headers.file.sectionCount = 2 ∧
      ∀ header ∈ outline.sections, 0x110 ≤ header.rva)
    ⟨fun all => ⟨all.1, all.2.1, all.2.2⟩,
      fun fitting => ⟨fitting.table, fitting.count, fitting.behind⟩⟩

instance (view : Image.View) (dos : Image.DosHeader) (outline : Image.Outline) :
    Decidable (ExportsFitting view dos outline) :=
  decidable_of_iff (_ ∧ _)
    ⟨fun both => ⟨both.1, both.2⟩, fun exports => ⟨exports.slot, exports.behind⟩⟩

instance (sections : List Image.SectionHeader) : Decidable (Grounded sections) :=
  inferInstanceAs (Decidable (sections.Pairwise _))

theorem Fitting.tablePlaces_eq (fitting : Fitting outline) :
    outline.headers.tablePlaces = Set.Ico 0xC0 0x110 := by
  rw [Image.Headers.tablePlaces, fitting.table, fitting.count]

theorem ExportsFitting.apart (exports : ExportsFitting view dos outline)
    (fitting : Fitting outline) : ExportsApart view {} dos outline where
  slot := by
    intro place inSlot
    rw [fitting.tablePlaces_eq]
    exact fun inTable => Nat.not_le.mpr (Nat.lt_of_lt_of_le inSlot.2.2 exports.slot) inTable.1
  places := by
    intro place inExports
    rw [fitting.tablePlaces_eq]
    exact fun inTable =>
      Nat.not_lt.mpr (Image.exportPlaces_subset_Ici exports.behind inExports) inTable.2

/-- The specimen's headers with two entries behind them. -/
structure Pair where
  one : Bytes
  two : Bytes
  rest : Bytes
  sizeOne : one.length = 40
  sizeTwo : two.length = 40

namespace Pair

def given (pair : Pair) : Image.View :=
  { base := 0x400000, bytes := Specimen.headers ++ pair.one ++ pair.two ++ pair.rest }

def swapped (pair : Pair) : Image.View :=
  { base := 0x400000, bytes := Specimen.headers ++ pair.two ++ pair.one ++ pair.rest }

theorem shuffled {pair : Pair} (found : shape? pair.given = some (dos, outline))
    (fitting : Fitting outline) : Shuffled pair.given pair.swapped dos outline where
  read := (of_shape? found).1
  follows := (of_shape? found).2
  reordered := Image.reordered_append rfl pair.sizeOne pair.sizeTwo fitting.table fitting.count
  unmapped := by
    intro header member place inside
    rw [fitting.tablePlaces_eq]
    exact fun inTable =>
      Nat.not_lt.mpr (Nat.le_trans (fitting.behind header member) inside.1) inTable.2

/-- Two ordinary sections and one export. -/
def ordinary : Pair where
  one := Specimen.sectionEntry ".text" 0x160 16 0x60000020
  two := Specimen.sectionEntry ".rdata" 0x170 16 0x40000040
  rest := Specimen.exports "c" 0x161 ++ List.replicate 32 0xC3
  sizeOne := by decide +kernel
  sizeTwo := by decide +kernel

/-- The first section takes no bytes and stands where the second does. -/
def hollow : Pair where
  one := Specimen.sectionEntry ".bss" 0x160 0 0xC0000080
  two := Specimen.sectionEntry ".text" 0x160 16 0x60000020
  rest := Specimen.exports "c" 0x161 ++ List.replicate 16 0xC3
  sizeOne := by decide +kernel
  sizeTwo := by decide +kernel

/-- The name of the export stands in the section table: it is the size of the first section, read
as a text. -/
def borrowed : Pair where
  one := Specimen.sectionEntry ".text" 0x160 0x41 0x60000020
  two := Specimen.sectionEntry ".data" 0x1A1 0x80 0xC0000040
  rest := (Specimen.exports "" 0x161).overlay 0x2C (Bytes.ofNat 4 0xC8) ++ List.replicate 0xC1 0
  sizeOne := by decide +kernel
  sizeTwo := by decide +kernel

/-- The image is accepted as it is, but not with its entries the other way round. -/
def Depends (pair : Pair) : Prop :=
  (∃ opened, (load "host.exe" pair.given {}).result = .ok opened) ∧
    ∀ opened, (load "host.exe" pair.swapped {}).result ≠ .ok opened

end Pair

theorem exists_shuffled : ∃ opened twin,
    (load "host.exe" Pair.ordinary.given {}).result = .ok opened ∧
      (load "host.exe" Pair.ordinary.swapped {}).result = .ok twin ∧
      opened.segments = twin.segments ∧ Answers opened twin := by
  have computed : (shape? Pair.ordinary.given).any (fun (dos, outline) =>
      Fitting outline ∧ Grounded outline.sections ∧
        ExportsFitting Pair.ordinary.given dos outline) = true := by
    decide +kernel
  have inOrder : (openInOrder? "host.exe" Pair.ordinary.given {}).isSome = true := by
    decide +kernel
  obtain ⟨⟨dos, outline⟩, found, facts⟩ := (Option.any_eq_true _ _).mp computed
  obtain ⟨fitting, grounded, exports⟩ := of_decide_eq_true facts
  obtain ⟨opened, same⟩ := Option.isSome_iff_exists.mp inOrder
  have accepted := load_of_openInOrder? same
  obtain ⟨answers, kept⟩ := @load_shuffled "host.exe" _ _ {} _ _ (Pair.shuffled found fitting)
    (exports.apart fitting)
  obtain ⟨both, sorted⟩ := kept grounded
  obtain ⟨twin, acceptedAgain⟩ := both.mp ⟨opened, accepted⟩
  exact ⟨opened, twin, accepted, acceptedAgain, sorted opened twin accepted acceptedAgain,
    (answers opened twin accepted acceptedAgain).2⟩

theorem depends_hollow : ∃ dos outline,
    Shuffled Pair.hollow.given Pair.hollow.swapped dos outline ∧
      ExportsApart Pair.hollow.given {} dos outline ∧ Pair.hollow.Depends := by
  have computed : (shape? Pair.hollow.given).any (fun (dos, outline) =>
      Fitting outline ∧ ExportsFitting Pair.hollow.given dos outline) = true := by
    decide +kernel
  have inOrder : (openInOrder? "host.exe" Pair.hollow.given {}).isSome = true := by
    decide +kernel
  have overlap : (shape? Pair.hollow.swapped).any (fun (_, outline) =>
      let segments := outline.sections.map (cut Pair.hollow.swapped (widthOf outline))
      (segments.Pairwise fun a b => a.base ≤ b.base) ∧
        ¬segments.Pairwise fun a b => a.stop ≤ b.base) = true := by
    decide +kernel
  obtain ⟨⟨dos, outline⟩, found, facts⟩ := (Option.any_eq_true _ _).mp computed
  obtain ⟨fitting, exports⟩ := of_decide_eq_true facts
  obtain ⟨opened, same⟩ := Option.isSome_iff_exists.mp inOrder
  refine ⟨dos, outline, Pair.shuffled found fitting, exports.apart fitting,
    ⟨opened, load_of_openInOrder? same⟩, fun twin accepted => ?_⟩
  obtain ⟨⟨_, again⟩, foundAgain, facts⟩ := (Option.any_eq_true _ _).mp overlap
  obtain ⟨ascending, overlaps⟩ := of_decide_eq_true facts
  obtain ⟨read, follows⟩ := of_shape? foundAgain
  obtain ⟨_, _, disjoint, _⟩ := (load_eq_ok_iff read follows).mp accepted
  rw [arranged_of_ascending ascending] at disjoint
  exact overlaps disjoint

theorem depends_borrowed : ∃ dos outline,
    Shuffled Pair.borrowed.given Pair.borrowed.swapped dos outline ∧
      Grounded outline.sections ∧ Pair.borrowed.Depends := by
  have computed : (shape? Pair.borrowed.given).any (fun (_, outline) =>
      Fitting outline ∧ Grounded outline.sections) = true := by
    decide +kernel
  have inOrder : (openInOrder? "host.exe" Pair.borrowed.given {}).isSome = true := by
    decide +kernel
  have unread : (shape? Pair.borrowed.swapped).any (fun found =>
      (exportsOf Pair.borrowed.swapped {} found.2).toOption.isNone) = true := by
    decide +kernel
  obtain ⟨⟨dos, outline⟩, found, facts⟩ := (Option.any_eq_true _ _).mp computed
  obtain ⟨fitting, grounded⟩ := of_decide_eq_true facts
  obtain ⟨opened, same⟩ := Option.isSome_iff_exists.mp inOrder
  refine ⟨dos, outline, Pair.shuffled found fitting, grounded,
    ⟨opened, load_of_openInOrder? same⟩, fun twin accepted => ?_⟩
  obtain ⟨⟨_, again⟩, foundAgain, none⟩ := (Option.any_eq_true _ _).mp unread
  obtain ⟨read, follows⟩ := of_shape? foundAgain
  obtain ⟨_, _, _, exports, exported, _⟩ := (load_eq_ok_iff read follows).mp accepted
  simp [exported, Except.toOption] at none

/-- Neither condition can be dropped. -/
theorem order_matters :
    (∃ pair : Pair, ∃ dos outline, Shuffled pair.given pair.swapped dos outline ∧
      ExportsApart pair.given {} dos outline ∧ pair.Depends) ∧
    ∃ pair : Pair, ∃ dos outline, Shuffled pair.given pair.swapped dos outline ∧
      Grounded outline.sections ∧ pair.Depends :=
  ⟨⟨_, depends_hollow⟩, _, depends_borrowed⟩

end LoadedModule

end Landmark
