import Landmark.Proofs.Extent
import Landmark.Proofs.Log.Attempt

/-! # Opening a module

An image that is accepted shows each section of its table as one segment, byte for
byte, and keeps the segments apart in the order of their addresses. One that is refused
is refused for the first check that fails. The checks have an order of their own here,
written down without the program, and the program is shown to keep it.
-/

namespace Landmark

open Log

namespace LoadedModule

variable {owner name : String} {view : Image.View} {bits : Nat} {limits : OpeningLimits}

/-- A segment shows the part of the image that a header names. -/
structure Mirrors (view : Image.View) (bits : Nat) (header : Image.SectionHeader)
    (segment : Segment) : Prop where
  name : segment.name = header.name
  base : segment.base = view.base + header.rva
  size : segment.size = header.mappedSize
  defined : segment.defined = min header.rawSize segment.size
  bits : segment.bits = bits
  permissions : segment.permissions = header.permissions
  inside : view.base ≤ segment.base ∧ segment.stop ≤ view.stop
  bytes : ∀ address, segment.base ≤ address → address < segment.stop →
    segment.data[address - segment.base]? = view.bytes[address - view.base]?

/-- The segment of a section that lies in the image. -/
def cut (view : Image.View) (bits : Nat) (header : Image.SectionHeader) : Segment :=
  segmentOf view bits header ((view.bytes.drop header.rva).take header.mappedSize)

def Fits (view : Image.View) (header : Image.SectionHeader) : Prop :=
  header.rva + header.mappedSize ≤ view.bytes.length

theorem Fits.mirrors {header : Image.SectionHeader} (fits : Fits view header) :
    Mirrors view bits header (cut view bits header) := by
  have size : (cut view bits header).size = header.mappedSize := by
    simp only [cut, segmentOf, Segment.withDefined, Segment.size, List.length_take,
      List.length_drop]
    exact Nat.min_eq_left (Nat.le_sub_of_add_le (Nat.add_comm _ _ ▸ fits))
  refine ⟨rfl, rfl, size, rfl, rfl, rfl, ⟨Nat.le_add_right _ _, ?_⟩, ?_⟩
  · change view.base + header.rva + (cut view bits header).size ≤ view.base + view.bytes.length
    rw [size, Nat.add_assoc]
    exact Nat.add_le_add_left fits _
  · intro address above below
    change view.base + header.rva ≤ address at above
    change address < view.base + header.rva + (cut view bits header).size at below
    change ((view.bytes.drop header.rva).take header.mappedSize)[address -
      (view.base + header.rva)]? = view.bytes[address - view.base]?
    rw [List.getElem?_take_of_lt (by omega), List.getElem?_drop]
    congr 1
    omega

/-- The sections of a table can be taken as segments: each lies in the image, under a name of
its own. -/
structure Separable (view : Image.View) (sections : List Image.SectionHeader) : Prop where
  fits : ∀ header ∈ sections, Fits view header
  distinct : (sections.map Image.SectionHeader.name).Nodup

/-- Why a section cannot be taken behind those `before` it. That its name is in use is noticed
before that it does not fit. -/
inductive Untakable (owner : String) (view : Image.View) (before : List Image.SectionHeader)
    (header : Image.SectionHeader) : Fatal → Prop where
  | duplicate (used : header.name ∈ before.map Image.SectionHeader.name) :
    Untakable owner view before header (.duplicateSegment owner header.name)
  | outside (unused : header.name ∉ before.map Image.SectionHeader.name)
    (sticksOut : view.bytes.length < header.rva + header.mappedSize) :
    Untakable owner view before header (.segmentOutsideImage owner header.name
      (view.base + header.rva + header.mappedSize) view.stop)

theorem Separable.of_append {before behind : List Image.SectionHeader}
    (all : Separable view (before ++ behind)) : Separable view before := by
  have names := all.distinct
  rw [List.map_append, List.nodup_append] at names
  exact ⟨fun header member => all.fits header (List.mem_append_left _ member), names.1⟩

theorem separable_append_singleton {before : List Image.SectionHeader}
    {header : Image.SectionHeader} :
    Separable view (before ++ [header]) ↔ Separable view before ∧
      header.name ∉ before.map Image.SectionHeader.name ∧ Fits view header := by
  constructor
  · intro all
    have names := all.distinct
    rw [List.map_append, List.nodup_append] at names
    refine ⟨all.of_append, ?_, all.fits header (by simp)⟩
    intro used
    exact names.2.2 _ used header.name (by simp) rfl
  · rintro ⟨front, unused, fits⟩
    refine ⟨?_, ?_⟩
    · intro other member
      rcases List.mem_append.mp member with earlier | last
      · exact front.fits other earlier
      · rw [List.mem_singleton.mp last]
        exact fits
    · rw [List.map_append, List.nodup_append]
      refine ⟨front.distinct, by simp, ?_⟩
      intro used member other last same
      have last : other = header.name := by simpa using last
      exact unused (last ▸ same ▸ member)

theorem separable_or_untakable (owner : String) {before : List Image.SectionHeader}
    (taken : Separable view before) (sections : List Image.SectionHeader) :
    Separable view (before ++ sections) ∨
      ∃ front header behind fault, sections = front ++ header :: behind ∧
        Separable view (before ++ front) ∧
        Untakable owner view (before ++ front) header fault := by
  -- Names are compared with those in front, so these grow along the table.
  induction sections generalizing before with
  | nil => exact .inl (by rwa [List.append_nil])
  | cons header rest ih =>
    by_cases used : header.name ∈ before.map Image.SectionHeader.name
    · exact .inr ⟨[], header, rest, _, rfl, by rwa [List.append_nil],
        .duplicate (by rwa [List.append_nil])⟩
    by_cases fits : Fits view header
    · have longer : Separable view (before ++ [header]) :=
        separable_append_singleton.mpr ⟨taken, used, fits⟩
      rcases ih longer with whole | ⟨front, bad, behind, fault, split, apart, why⟩
      · exact .inl (by rwa [List.append_assoc] at whole)
      · rw [List.append_assoc] at apart why
        exact .inr ⟨header :: front, bad, behind, fault, by rw [split]; rfl, apart, why⟩
    · exact .inr ⟨[], header, rest, _, rfl, by rwa [List.append_nil],
        .outside (by rwa [List.append_nil]) (Nat.lt_of_not_le fits)⟩

private theorem any_cut {before : List Image.SectionHeader} {header : Image.SectionHeader} :
    ((before.map (cut view bits)).any fun segment => segment.name == header.name) = true ↔
      header.name ∈ before.map Image.SectionHeader.name := by
  simp only [List.any_map, List.any_eq_true, Function.comp, beq_iff_eq, List.mem_map]
  exact Iff.rfl

private theorem slice?_of_fits {header : Image.SectionHeader} (fits : Fits view header) :
    view.slice? header.rva header.mappedSize =
      some ((view.bytes.drop header.rva).take header.mappedSize) :=
  Bytes.slice?_eq_some_iff.mpr ⟨fits, rfl⟩

theorem takeSections_append {before front rest : List Image.SectionHeader}
    (apart : Separable view (before ++ front)) :
    takeSections owner view bits (before.map (cut view bits)) (front ++ rest) =
      takeSections owner view bits ((before ++ front).map (cut view bits)) rest := by
  induction front generalizing before with
  | nil => rw [List.append_nil, List.nil_append]
  | cons header front ih =>
    have regrouped : before ++ header :: front = (before ++ [header]) ++ front := by simp
    rw [regrouped] at apart ⊢
    obtain ⟨_, unused, fits⟩ := separable_append_singleton.mp apart.of_append
    rw [← ih apart, List.cons_append, takeSections, if_neg (mt any_cut.mp unused),
      slice?_of_fits fits]
    rw [List.map_append]
    rfl

theorem takeSections_front {front : List Image.SectionHeader} (apart : Separable view front)
    (rest : List Image.SectionHeader) :
    takeSections owner view bits [] (front ++ rest) =
      takeSections owner view bits (front.map (cut view bits)) rest := by
  have whole : Separable view ([] ++ front) := apart
  exact takeSections_append whole

theorem takeSections_of_untakable {before behind : List Image.SectionHeader}
    {header : Image.SectionHeader} {fault : Fatal}
    (why : Untakable owner view before header fault) :
    takeSections owner view bits (before.map (cut view bits)) (header :: behind) =
      .error fault := by
  cases why with
  | duplicate used => rw [takeSections, if_pos (any_cut.mpr used)]
  | outside unused sticksOut =>
    have missing : view.slice? header.rva header.mappedSize = none := by
      simp only [Image.View.slice?, Bytes.slice?, Nat.not_le.mpr sticksOut, if_false]
    rw [takeSections, if_neg (mt any_cut.mp unused), missing]

/-- The segments of a table, in the order of their addresses. Those at one address keep the
order of the table. -/
def arranged (view : Image.View) (bits : Nat) (sections : List Image.SectionHeader) :
    List Segment :=
  (sections.map (cut view bits)).mergeSort fun a b => a.base ≤ b.base

theorem arranged_perm (sections : List Image.SectionHeader) :
    (arranged view bits sections).Perm (sections.map (cut view bits)) :=
  List.mergeSort_perm _ _

theorem arranged_ascending (sections : List Image.SectionHeader) :
    (arranged view bits sections).Pairwise fun a b => a.base ≤ b.base :=
  Extent.ascending_mergeSort _

theorem segmentsOf_of_separable {sections : List Image.SectionHeader}
    (apart : Separable view sections) :
    segmentsOf owner view bits sections =
      match Extent.overlap? Segment.base Segment.stop (arranged view bits sections) with
      | some (first, second) => .error (.segmentOverlap owner first.name second.name)
      | none => .ok (arranged view bits sections) := by
  have whole : takeSections owner view bits [] sections =
      .ok (sections.map (cut view bits)) := by
    rw [← List.append_nil sections, takeSections_front apart, takeSections, List.append_nil]
  rw [segmentsOf, whole, ← overlap?_eq]
  rfl

/-- The headers and the section table of an image whose first header is as it should be. -/
def Outlined (view : Image.View) (limits : OpeningLimits) (outline : Image.Outline) : Prop :=
  ∃ dos, Image.readDosHeader view.bytes = .ok dos ∧ dos.nextHeader ≤ limits.maxHeaderOffset ∧
    Image.readOutline view.bytes dos = .ok outline

def widthOf (outline : Image.Outline) : Nat := outline.headers.optional.layout.bits

def exportsOf (view : Image.View) (limits : OpeningLimits) (outline : Image.Outline) :
    Except Image.Fault Image.ExportTable :=
  Image.readExports view.bytes (outline.headers.directory 0) limits.maxExports

/-- Why an image is refused, in the order in which it is looked at. Each reason takes for
granted that none above it applies. -/
inductive Rejects (name : String) (view : Image.View) (limits : OpeningLimits) : Fatal → Prop where
  | first {fault : Image.Fault} (unread : Image.readDosHeader view.bytes = .error fault) :
    Rejects name view limits (.malformedHeader name fault)
  | offset {dos : Image.DosHeader} (read : Image.readDosHeader view.bytes = .ok dos)
    (beyond : limits.maxHeaderOffset < dos.nextHeader) :
    Rejects name view limits (.excessiveHeaderOffset name dos.nextHeader limits.maxHeaderOffset)
  | headers {dos : Image.DosHeader} {fault : Image.Fault}
    (read : Image.readDosHeader view.bytes = .ok dos)
    (allowed : dos.nextHeader ≤ limits.maxHeaderOffset)
    (unread : Image.readOutline view.bytes dos = .error fault) :
    Rejects name view limits (.malformedHeader name fault)
  | sections {outline : Image.Outline} {before behind : List Image.SectionHeader}
    {header : Image.SectionHeader} {fault : Fatal} (outlined : Outlined view limits outline)
    (split : outline.sections = before ++ header :: behind) (apart : Separable view before)
    (why : Untakable name view before header fault) : Rejects name view limits fault
  | overlap {outline : Image.Outline} {before behind : List Segment} {a b : Segment}
    (outlined : Outlined view limits outline) (apart : Separable view outline.sections)
    (split : arranged view (widthOf outline) outline.sections = before ++ a :: b :: behind)
    (chain : (before ++ [a]).IsChain fun a b => a.stop ≤ b.base) (overlaps : b.base < a.stop) :
    Rejects name view limits (.segmentOverlap name a.name b.name)
  | exports {outline : Image.Outline} {fault : Image.Fault}
    (outlined : Outlined view limits outline)
    (apart : Separable view outline.sections)
    (disjoint : (arranged view (widthOf outline) outline.sections).Pairwise
      fun a b => a.stop ≤ b.base)
    (unread : exportsOf view limits outline = .error fault) :
    Rejects name view limits (.malformedHeader name fault)

/-- A module shows an image: its segments are the sections of the table, one for one, apart and
in order, and each is found by its name. -/
structure Represents (name : String) (view : Image.View) (limits : OpeningLimits)
    (outline : Image.Outline) (opened : LoadedModule) : Prop where
  named : opened.name = name
  shown : opened.view = view
  width : opened.bits = widthOf outline
  exports : exportsOf view limits outline = .ok opened.exports
  row : ∃ row, List.Forall₂ (Mirrors view (widthOf outline)) outline.sections row ∧
    row.Perm opened.segments
  ascending : opened.segments.Pairwise fun a b => a.base ≤ b.base
  disjoint : opened.segments.Pairwise fun a b => a.stop ≤ b.base
  distinct : opened.segments.Pairwise fun a b => a.name ≠ b.name
  found : ∀ wanted segment, opened.segment? wanted = some segment ↔
    segment ∈ opened.segments ∧ segment.name = wanted
  has : ∀ wanted, opened.hasSegment wanted = true ↔ ∃ segment ∈ opened.segments,
    segment.name = wanted
  required : ∀ wanted segment, opened.requireSegment wanted = .ok segment ↔
    segment ∈ opened.segments ∧ segment.name = wanted
  missing : ∀ wanted fault, opened.requireSegment wanted = .error fault ↔
    (∀ segment ∈ opened.segments, segment.name ≠ wanted) ∧ fault = .missingSegment name wanted

theorem segment?_eq_some_iff {opened : LoadedModule}
    (distinct : opened.segments.Pairwise fun a b => a.name ≠ b.name) {wanted : String}
    {segment : Segment} :
    opened.segment? wanted = some segment ↔
      segment ∈ opened.segments ∧ segment.name = wanted := by
  constructor
  · intro found
    exact ⟨List.mem_of_find?_eq_some found, by simpa using List.find?_some found⟩
  · rintro ⟨member, rfl⟩
    obtain ⟨front, behind, split⟩ := List.append_of_mem member
    rw [segment?, split, List.find?_append]
    rw [split] at distinct
    have others : front.find? (fun other => other.name == segment.name) = none := by
      rw [List.find?_eq_none]
      intro other earlier
      simpa using (List.pairwise_append.mp distinct).2.2 other earlier segment List.mem_cons_self
    rw [others, Option.none_or, List.find?_cons_of_pos (by simp)]

theorem segment?_eq_none_iff {opened : LoadedModule} {wanted : String} :
    opened.segment? wanted = none ↔ ∀ segment ∈ opened.segments, segment.name ≠ wanted := by
  simp [segment?]

theorem requireSegment_eq_ok_iff {opened : LoadedModule} {wanted : String} {segment : Segment} :
    opened.requireSegment wanted = .ok segment ↔ opened.segment? wanted = some segment := by
  unfold requireSegment
  cases opened.segment? wanted <;> simp

theorem requireSegment_eq_error_iff {opened : LoadedModule} {wanted : String} {fault : Fatal} :
    opened.requireSegment wanted = .error fault ↔
      opened.segment? wanted = none ∧ fault = .missingSegment opened.name wanted := by
  unfold requireSegment
  cases opened.segment? wanted <;> simp [eq_comm]

theorem build_of_outlined {outline : Image.Outline} (outlined : Outlined view limits outline) :
    build name view limits =
      segmentsOf name view (widthOf outline) outline.sections >>= fun segments =>
        (exportsOf view limits outline).mapError (.malformedHeader name) >>= fun exports =>
          .ok { name, view, bits := widthOf outline, segments, exports } := by
  obtain ⟨dos, read, allowed, follows⟩ := outlined
  simp only [build, read, follows, bind, Except.bind, mapError_ok, Nat.not_lt.mpr allowed,
    if_false]
  rfl

theorem segmentsOf_of_disjoint {sections : List Image.SectionHeader}
    (apart : Separable view sections)
    (disjoint : (arranged view bits sections).Pairwise fun a b => a.stop ≤ b.base) :
    segmentsOf owner view bits sections = .ok (arranged view bits sections) := by
  rw [segmentsOf_of_separable apart, Extent.overlap?_eq_none_iff.mpr disjoint.isChain]

theorem build_of_rejects {fault : Fatal} (rejects : Rejects name view limits fault) :
    build name view limits = .error fault := by
  cases rejects with
  | first unread =>
    rw [build, unread]
    rfl
  | offset read beyond =>
    simp only [build, read, bind, Except.bind, mapError_ok, beyond, if_true]
    rfl
  | headers read allowed unread =>
    simp only [build, read, unread, bind, Except.bind, mapError_ok, mapError_error,
      Nat.not_lt.mpr allowed, if_false]
  | @sections outline before behind header fault outlined split apart why =>
    have refused : segmentsOf name view (widthOf outline) outline.sections = .error fault := by
      rw [segmentsOf, split, takeSections_front apart, takeSections_of_untakable why]
      rfl
    rw [build_of_outlined outlined, refused]
    rfl
  | overlap outlined apart split chain overlaps =>
    have found := Extent.overlap?_eq_some_iff.mpr ⟨_, _, split, chain, overlaps⟩
    rw [build_of_outlined outlined, segmentsOf_of_separable apart, found]
    rfl
  | exports outlined apart disjoint unread =>
    rw [build_of_outlined outlined, segmentsOf_of_disjoint apart disjoint, unread]
    rfl

theorem build_of_disjoint {outline : Image.Outline} {exports : Image.ExportTable}
    (outlined : Outlined view limits outline) (apart : Separable view outline.sections)
    (disjoint : (arranged view (widthOf outline) outline.sections).Pairwise
      fun a b => a.stop ≤ b.base)
    (read : exportsOf view limits outline = .ok exports) :
    build name view limits = .ok {
      name, view, exports
      bits := widthOf outline
      segments := arranged view (widthOf outline) outline.sections } := by
  rw [build_of_outlined outlined, segmentsOf_of_disjoint apart disjoint, read]
  rfl

theorem represents_arranged {outline : Image.Outline} {exports : Image.ExportTable}
    (apart : Separable view outline.sections)
    (disjoint : (arranged view (widthOf outline) outline.sections).Pairwise
      fun a b => a.stop ≤ b.base)
    (read : exportsOf view limits outline = .ok exports) :
    Represents name view limits outline {
      name, view, exports
      bits := widthOf outline
      segments := arranged view (widthOf outline) outline.sections } := by
  have distinct : (arranged view (widthOf outline) outline.sections).Pairwise
      fun a b => a.name ≠ b.name := by
    have names : ((arranged view (widthOf outline) outline.sections).map Segment.name).Nodup := by
      rw [((arranged_perm outline.sections).map Segment.name).nodup_iff, List.map_map]
      exact apart.distinct
    exact List.pairwise_map.mp names
  refine ⟨rfl, rfl, rfl, read, ?_, arranged_ascending _, disjoint, distinct,
    fun _ _ => segment?_eq_some_iff distinct, ?_, ?_, ?_⟩
  · refine ⟨outline.sections.map (cut view (widthOf outline)), ?_, (arranged_perm _).symm⟩
    rw [List.forall₂_map_right_iff, List.forall₂_same]
    intro header member
    exact (apart.fits header member).mirrors
  · intro wanted
    rw [hasSegment, Option.isSome_iff_exists]
    exact exists_congr fun segment => segment?_eq_some_iff distinct
  · intro wanted segment
    rw [requireSegment_eq_ok_iff]
    exact segment?_eq_some_iff distinct
  · intro wanted fault
    rw [requireSegment_eq_error_iff, segment?_eq_none_iff]

/-- Nothing is left open: an image is refused for one of the reasons, or its sections stay apart
and its exports can be read. -/
theorem rejects_or_disjoint (name : String) (view : Image.View) (limits : OpeningLimits) :
    (∃ fault, Rejects name view limits fault) ∨
      ∃ outline exports, Outlined view limits outline ∧ Separable view outline.sections ∧
        ((arranged view (widthOf outline) outline.sections).Pairwise fun a b => a.stop ≤ b.base) ∧
        exportsOf view limits outline = .ok exports := by
  cases read : Image.readDosHeader view.bytes with
  | error fault => exact .inl ⟨_, .first read⟩
  | ok dos =>
    rcases Nat.lt_or_ge limits.maxHeaderOffset dos.nextHeader with beyond | allowed
    · exact .inl ⟨_, .offset read beyond⟩
    cases follows : Image.readOutline view.bytes dos with
    | error fault => exact .inl ⟨_, .headers read allowed follows⟩
    | ok outline =>
      have outlined : Outlined view limits outline := ⟨dos, read, allowed, follows⟩
      have none : Separable view [] := ⟨by simp, by simp⟩
      rcases separable_or_untakable name none outline.sections with apart | refused
      · rw [List.nil_append] at apart
        cases found : Extent.overlap? Segment.base Segment.stop
            (arranged view (widthOf outline) outline.sections) with
        | some pair =>
          obtain ⟨before, behind, split, chain, overlaps⟩ :=
            Extent.overlap?_eq_some_iff.mp found
          exact .inl ⟨_, .overlap outlined apart split chain overlaps⟩
        | none =>
          have disjoint := Extent.pairwise_of_isChain (arranged_ascending outline.sections)
            (Extent.overlap?_eq_none_iff.mp found)
          cases exported : exportsOf view limits outline with
          | error fault => exact .inl ⟨_, .exports outlined apart disjoint exported⟩
          | ok exports => exact .inr ⟨outline, exports, outlined, apart, disjoint, exported⟩
      · obtain ⟨front, header, behind, fault, split, apart, why⟩ := refused
        rw [List.nil_append] at apart why
        exact .inl ⟨fault, .sections outlined split apart why⟩

theorem result_load : (load name view limits).result = build name view limits := by
  simp only [load, Attempt.result_bind, Attempt.result_ofExcept, Attempt.result_emit,
    Attempt.result_pure]
  cases build name view limits <;> rfl

theorem represents_of_load {opened : LoadedModule}
    (accepted : (load name view limits).result = .ok opened) :
    ∃ outline, Outlined view limits outline ∧ Represents name view limits outline opened := by
  rw [result_load] at accepted
  rcases rejects_or_disjoint name view limits with
    ⟨first, rejects⟩ | ⟨outline, exports, outlined, apart, disjoint, read⟩
  · rw [build_of_rejects rejects] at accepted
    cases accepted
  · rw [build_of_disjoint outlined apart disjoint read] at accepted
    cases accepted
    exact ⟨outline, outlined, represents_arranged apart disjoint read⟩

theorem rejects_of_load {fault : Fatal} (refused : (load name view limits).result = .error fault) :
    Rejects name view limits fault := by
  rw [result_load] at refused
  rcases rejects_or_disjoint name view limits with
    ⟨first, rejects⟩ | ⟨outline, exports, outlined, apart, disjoint, read⟩
  · rw [build_of_rejects rejects] at refused
    cases refused
    exact rejects
  · rw [build_of_disjoint outlined apart disjoint read] at refused
    cases refused

theorem Represents.exists_mirrors {outline : Image.Outline} {opened : LoadedModule}
    (represents : Represents name view limits outline opened) {segment : Segment}
    (member : segment ∈ opened.segments) :
    ∃ header ∈ outline.sections, Mirrors view (widthOf outline) header segment := by
  obtain ⟨row, pairs, same⟩ := represents.row
  obtain ⟨place, inside, rfl⟩ := List.getElem_of_mem (same.mem_iff.mpr member)
  have bound : place < outline.sections.length := pairs.length_eq ▸ inside
  exact ⟨outline.sections[place], List.getElem_mem bound, pairs.get bound inside⟩

/-- Opening an image. A module that is opened shows the image; an image that is not is refused
for the first reason there is, and for no other. -/
theorem load_exact (name : String) (view : Image.View) (limits : OpeningLimits) :
    (∀ opened, (load name view limits).result = .ok opened →
      ∃ outline, Outlined view limits outline ∧ Represents name view limits outline opened) ∧
    (∀ fault, (load name view limits).result = .error fault ↔ Rejects name view limits fault) := by
  refine ⟨fun opened accepted => represents_of_load accepted, fun fault => ?_⟩
  constructor
  · intro refused
    exact rejects_of_load refused
  · intro rejects
    rw [result_load]
    exact build_of_rejects rejects

end LoadedModule

end Landmark
