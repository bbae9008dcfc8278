import Landmark.Proofs.Image.Exported
import Landmark.Proofs.LoadedModule.Opening

/-! # Opening what was built

A coherent blueprint is built into an image that opens, and the module gives back what the
blueprint asks for: its sections as segments in the order of their addresses, each with its
content cut or filled up, and its exports under their names.
-/

namespace Landmark

open Image (Blueprint PlannedSection)

variable {blueprint : Blueprint} {name : String} {limits : OpeningLimits}

namespace Image.Blueprint

/-- The segment that a section becomes. -/
def segment (blueprint : Blueprint) (planned : PlannedSection) : Segment :=
  Segment.withDefined {
    name := planned.name
    base := blueprint.base + planned.rva
    data := planned.filled
    bits := blueprint.layout.bits
    permissions := planned.header.permissions } planned.content.length

theorem segment_stop (blueprint : Blueprint) (planned : PlannedSection) :
    (blueprint.segment planned).stop = blueprint.base + planned.rva + planned.size :=
  congrArg _ planned.length_filled

theorem entries_exportTable (blueprint : Blueprint) :
    blueprint.exportTable.entries = blueprint.exports.zipIdx.map entryOf := by
  unfold exportTable
  split
  next none =>
    rw [List.isEmpty_iff.mp none]
    rfl
  next => rfl

namespace Coherent

variable (coherent : blueprint.Coherent)
include coherent

theorem cut_header {planned : PlannedSection} (member : planned ∈ blueprint.sections) :
    LoadedModule.cut blueprint.view blueprint.layout.bits planned.header =
      blueprint.segment planned := by
  have slice : (blueprint.view.bytes.drop planned.header.rva).take planned.header.mappedSize =
      planned.filled := coherent.slice_build member
  rw [LoadedModule.cut, LoadedModule.segmentOf, slice,
    (coherent.placed planned member).name_header]
  rfl

theorem map_cut : (blueprint.sections.map PlannedSection.header).map
    (LoadedModule.cut blueprint.view blueprint.layout.bits) =
      blueprint.sections.map blueprint.segment := by
  rw [List.map_map]
  exact List.map_congr_left fun planned member => coherent.cut_header member

theorem arranged_headers :
    LoadedModule.arranged blueprint.view blueprint.layout.bits
      (blueprint.sections.map PlannedSection.header) =
        (blueprint.sections.mergeSort fun a b => a.rva ≤ b.rva).map blueprint.segment := by
  rw [LoadedModule.arranged, coherent.map_cut, List.map_mergeSort]
  intro a _ b _
  exact decide_eq_decide.mpr (Nat.add_le_add_iff_left).symm

theorem separable : LoadedModule.Separable blueprint.view
    (blueprint.sections.map PlannedSection.header) where
  fits := by
    rw [List.forall_mem_map]
    intro planned member
    have inside := Blueprint.stop_le_size member
    rw [← coherent.length_build] at inside
    exact Nat.le_trans planned.size_le inside
  distinct := by
    have names : (blueprint.sections.map PlannedSection.header).map SectionHeader.name =
        blueprint.sections.map PlannedSection.name := by
      rw [List.map_map]
      exact List.map_congr_left fun planned member => (coherent.placed planned member).name_header
    rw [names]
    exact coherent.distinct

/-- Sections that do not meet leave their segments one behind another. -/
theorem arranged_disjoint :
    (LoadedModule.arranged blueprint.view blueprint.layout.bits
      (blueprint.sections.map PlannedSection.header)).Pairwise fun a b => a.stop ≤ b.base := by
  have aside : (blueprint.sections.map blueprint.segment).Pairwise fun a b =>
      (a.base < a.stop ∧ b.base < b.stop) ∧ (a.stop ≤ b.base ∨ b.stop ≤ a.base) := by
    refine List.pairwise_map.mpr (coherent.apart.imp_of_mem fun {a b} inA inB apart => ?_)
    have sizeA := (coherent.placed a inA).size_pos
    have sizeB := (coherent.placed b inB).size_pos
    have stopA := a.size_le
    have stopB := b.size_le
    rw [segment_stop, segment_stop]
    have baseA : (blueprint.segment a).base = blueprint.base + a.rva := rfl
    have baseB : (blueprint.segment b).base = blueprint.base + b.rva := rfl
    omega
  have sorted := (@LoadedModule.arranged_perm blueprint.view blueprint.layout.bits
    (blueprint.sections.map PlannedSection.header)).symm
  rw [coherent.map_cut] at sorted
  have apart := sorted.pairwise aside fun {a b} beside => ⟨⟨beside.1.2, beside.1.1⟩, beside.2.symm⟩
  -- Of two segments that are apart, the one that begins first ends before the other begins.
  refine ((LoadedModule.arranged_ascending _).and apart).imp fun {a b} both => ?_
  omega

end Coherent

end Image.Blueprint

/-- A blueprint whose table is not in the order of the addresses. One section is longer than its
content, the other has no size of its own. -/
def Specimen.outOfOrder : Blueprint where
  layout := .wide
  base := 0x140000000
  sections := [
    { name := ".data", rva := 0x2000, virtualSize := 0x20, content := [1, 2, 3]
      characteristics := 0xC0000040 },
    { name := ".text", rva := 0x1000, virtualSize := 0, content := [0x90, 0xC3]
      characteristics := 0x60000020 }]
  exports := [("first", 0x1000), ("last", 0x1001)]

namespace LoadedModule

/-- Of exports with different names the last one of a name is the only one. -/
theorem find?_entryOf (unique : (blueprint.exports.map Prod.fst).Nodup) {wanted : String}
    {rva place : Nat} (placed : blueprint.exports[place]? = some (wanted, rva)) :
    (blueprint.exports.zipIdx.map Blueprint.entryOf).reverse.find?
        (fun entry => entry.name == some wanted) =
      some (Blueprint.entryOf ((wanted, rva), place)) := by
  refine find?_eq_of_unique (List.mem_reverse.mpr (List.mem_map_of_mem
    (List.mk_mem_zipIdx_iff_getElem?.mpr placed))) (by simp [Blueprint.entryOf]) ?_
  intro other among same
  obtain ⟨⟨⟨name, offset⟩, number⟩, indexed, rfl⟩ := List.mem_map.mp (List.mem_reverse.mp among)
  obtain rfl : name = wanted := by simpa [Blueprint.entryOf] using same
  have numbered := List.mk_mem_zipIdx_iff_getElem?.mp indexed
  have names : (blueprint.exports.map Prod.fst)[place]? =
      (blueprint.exports.map Prod.fst)[number]? := by
    rw [List.getElem?_map, List.getElem?_map, placed, numbered]
    rfl
  have inside : place < (blueprint.exports.map Prod.fst).length := by
    rw [List.length_map]
    exact (List.getElem?_eq_some_iff.mp placed).1
  obtain rfl := (List.getElem?_inj inside unique).mp names
  rw [placed] at numbered
  rw [Option.some.inj numbered]

theorem export?_eq_some_iff {opened : LoadedModule}
    (unique : (blueprint.exports.map Prod.fst).Nodup)
    (exports : opened.exports = blueprint.exportTable) {wanted : String} {address : Nat} :
    opened.export? wanted = some address ↔
      ∃ rva, (wanted, rva) ∈ blueprint.exports ∧ address = opened.base + rva := by
  have entries : opened.exports.entries = blueprint.exports.zipIdx.map Blueprint.entryOf := by
    rw [exports, Blueprint.entries_exportTable]
  unfold export? Image.ExportTable.find?
  rw [entries]
  constructor
  · intro found
    obtain ⟨entry, here, address_eq⟩ := Option.bind_eq_some_iff.mp found
    have named := List.find?_some here
    obtain ⟨⟨⟨name, rva⟩, number⟩, indexed, rfl⟩ :=
      List.mem_map.mp (List.mem_reverse.mp (List.mem_of_find?_eq_some here))
    obtain rfl : name = wanted := by simpa [Blueprint.entryOf] using named
    have member := List.mem_of_getElem? (List.mk_mem_zipIdx_iff_getElem?.mp indexed)
    exact ⟨rva, member, (Option.some.inj address_eq).symm⟩
  · rintro ⟨rva, member, rfl⟩
    obtain ⟨place, inside, here⟩ := List.getElem_of_mem member
    rw [find?_entryOf unique (List.getElem?_eq_some_iff.mpr ⟨inside, here⟩)]
    rfl

/-- A module holds what a blueprint asks for. -/
structure GivesBack (name : String) (blueprint : Blueprint) (opened : LoadedModule) : Prop where
  named : opened.name = name
  shown : opened.view = blueprint.view
  base : opened.base = blueprint.base
  width : opened.bits = blueprint.layout.bits
  segments : opened.segments =
    (blueprint.sections.mergeSort fun a b => a.rva ≤ b.rva).map blueprint.segment
  found : ∀ planned ∈ blueprint.sections,
    opened.segment? planned.name = some (blueprint.segment planned)
  exports : opened.exports = blueprint.exportTable
  exported : ∀ wanted address, opened.export? wanted = some address ↔
    ∃ rva, (wanted, rva) ∈ blueprint.exports ∧ address = blueprint.base + rva

/-- **A coherent blueprint opens as what it asks for.** -/
theorem load_givesBack (name : String) (coherent : blueprint.Coherent)
    (reached : blueprint.nextHeader ≤ limits.maxHeaderOffset)
    (counted : blueprint.exports.length ≤ limits.maxExports) :
    ∃ opened, (load name blueprint.view limits).result = .ok opened ∧
      GivesBack name blueprint opened := by
  have outlined : Outlined blueprint.view limits
      (Image.outlineAt blueprint.build blueprint.nextHeader) :=
    ⟨_, coherent.readDosHeader_build, reached, coherent.readOutline_build⟩
  have width : widthOf (Image.outlineAt blueprint.build blueprint.nextHeader) =
      blueprint.layout.bits := congrArg _ coherent.layoutAt_eq
  have sections := coherent.sections_outlineAt
  have apart := coherent.separable
  have disjoint := coherent.arranged_disjoint
  rw [← sections] at apart disjoint
  rw [← width] at disjoint
  have read : exportsOf blueprint.view limits
      (Image.outlineAt blueprint.build blueprint.nextHeader) = .ok blueprint.exportTable :=
    coherent.readExports_build counted
  have segments : arranged blueprint.view
      (widthOf (Image.outlineAt blueprint.build blueprint.nextHeader))
      (Image.outlineAt blueprint.build blueprint.nextHeader).sections =
        (blueprint.sections.mergeSort fun a b => a.rva ≤ b.rva).map blueprint.segment := by
    rw [width, sections, coherent.arranged_headers]
  have represents := @represents_arranged name _ _ _ _ apart disjoint read
  refine ⟨_, result_load.trans (build_of_disjoint outlined apart disjoint read), ?_⟩
  exact {
    named := rfl
    shown := rfl
    base := rfl
    width := width
    segments := segments
    found := fun planned member => by
      rw [represents.found]
      refine ⟨?_, rfl⟩
      rw [segments]
      exact List.mem_map_of_mem (List.mem_mergeSort.mpr member)
    exports := rfl
    exported := fun wanted address => export?_eq_some_iff coherent.unique rfl }

theorem outOfOrder_givesBack : Specimen.outOfOrder.Coherent ∧
    ∃ opened, (load "sample" Specimen.outOfOrder.view {}).result = .ok opened ∧
      opened.export? "last" = some 0x140001001 ∧
      (opened.segment? ".data").map Segment.data = some ([1, 2, 3] ++ List.replicate 29 0) := by
  have coherent : Specimen.outOfOrder.Coherent := by decide +kernel
  obtain ⟨opened, loaded, back⟩ :=
    @load_givesBack Specimen.outOfOrder {} "sample" coherent (by decide) (by decide)
  refine ⟨coherent, opened, loaded, (back.exported _ _).mpr ⟨0x1001, by decide, rfl⟩, ?_⟩
  rw [back.found _ (.head _)]
  rfl

end LoadedModule

end Landmark
