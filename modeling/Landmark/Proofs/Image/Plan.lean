import Landmark.Proofs.Image.Lots

/-! # The plan of an image

A blueprint sets aside a lot for everything that it writes: the headers, the table of
sections, the export directory with its tables and texts, and the sections themselves. In
a coherent blueprint no two of them meet, so the image holds all of them.
-/

namespace Landmark.Image

open Text (Utf8.encode)

/-- A section that can be laid out and read back. -/
structure PlannedSection.Placed (planned : PlannedSection) : Prop where
  plain : 0 ∉ Utf8.encode planned.name
  short : (Utf8.encode planned.name).length ≤ 8
  above : pageSize ≤ planned.rva
  sized : planned.rva < planned.stop
  below : planned.stop ≤ 0xFFFFF000
  flagged : planned.characteristics < 0x100000000

instance (planned : PlannedSection) : Decidable planned.Placed :=
  decidable_of_iff
    (0 ∉ Utf8.encode planned.name ∧ (Utf8.encode planned.name).length ≤ 8 ∧
      pageSize ≤ planned.rva ∧ planned.rva < planned.stop ∧ planned.stop ≤ 0xFFFFF000 ∧
      planned.characteristics < 0x100000000)
    ⟨fun ⟨plain, short, above, sized, below, flagged⟩ =>
      ⟨plain, short, above, sized, below, flagged⟩,
      fun placed => ⟨placed.plain, placed.short, placed.above, placed.sized, placed.below,
        placed.flagged⟩⟩

/-- An export that can be written and read back, given where its directory ends. -/
structure ExportPlaced (stop : Nat) (name : String) (rva : Nat) : Prop where
  plain : 0 ∉ Utf8.encode name
  short : (Utf8.encode name).length ≤ 511
  present : 0 < rva
  low : rva < 0x100000000
  outside : rva < Blueprint.exportPlace ∨ stop ≤ rva

instance (stop : Nat) (name : String) (rva : Nat) : Decidable (ExportPlaced stop name rva) :=
  decidable_of_iff
    (0 ∉ Utf8.encode name ∧ (Utf8.encode name).length ≤ 511 ∧ 0 < rva ∧ rva < 0x100000000 ∧
      (rva < Blueprint.exportPlace ∨ stop ≤ rva))
    ⟨fun ⟨plain, short, present, low, outside⟩ => ⟨plain, short, present, low, outside⟩,
      fun placed => ⟨placed.plain, placed.short, placed.present, placed.low, placed.outside⟩⟩

namespace Blueprint

def directories (blueprint : Blueprint) : Nat :=
  blueprint.nextHeader + 24 + blueprint.layout.fixedSize

def table (blueprint : Blueprint) : Nat := blueprint.nextHeader + 24 + blueprint.optionalSize

/-- The offset behind the table of sections. -/
def tableStop (blueprint : Blueprint) : Nat := blueprint.table + 40 * blueprint.sections.length

/-- The offset behind the texts of the exports. -/
def exportStop (blueprint : Blueprint) : Nat :=
  exportPlace + 40 + 10 * blueprint.exports.length + (exportTexts blueprint.exports).length

/-- A blueprint in which nothing is in the way of anything else. -/
structure Coherent (blueprint : Blueprint) : Prop where
  signed : blueprint.dosMagic = 0x5A4D
  behind : 0x40 ≤ blueprint.nextHeader
  tabled : blueprint.tableStop ≤ exportPlace
  placed : ∀ planned ∈ blueprint.sections, planned.Placed
  distinct : (blueprint.sections.map PlannedSection.name).Nodup
  apart : blueprint.sections.Pairwise fun a b => a.stop ≤ b.rva ∨ b.stop ≤ a.rva
  paged : blueprint.exportStop ≤ pageSize
  exported : ∀ entry ∈ blueprint.exports, ExportPlaced blueprint.exportStop entry.1 entry.2
  unique : (blueprint.exports.map Prod.fst).Nodup

instance (blueprint : Blueprint) : Decidable blueprint.Coherent :=
  decidable_of_iff
    ((blueprint.dosMagic = 0x5A4D ∧ 0x40 ≤ blueprint.nextHeader ∧
        blueprint.tableStop ≤ exportPlace) ∧
      ((∀ planned ∈ blueprint.sections, planned.Placed) ∧
        (blueprint.sections.map PlannedSection.name).Nodup ∧
        blueprint.sections.Pairwise fun a b => a.stop ≤ b.rva ∨ b.stop ≤ a.rva) ∧
      blueprint.exportStop ≤ pageSize ∧
      (∀ entry ∈ blueprint.exports, ExportPlaced blueprint.exportStop entry.1 entry.2) ∧
      (blueprint.exports.map Prod.fst).Nodup)
    ⟨fun ⟨⟨signed, behind, tabled⟩, ⟨placed, distinct, apart⟩, paged, exported, unique⟩ =>
      ⟨signed, behind, tabled, placed, distinct, apart, paged, exported, unique⟩,
      fun coherent => ⟨⟨coherent.signed, coherent.behind, coherent.tabled⟩,
        ⟨coherent.placed, coherent.distinct, coherent.apart⟩, coherent.paged, coherent.exported,
        coherent.unique⟩⟩

end Blueprint

/-! ## Sections -/

namespace PlannedSection

variable {planned : PlannedSection} {sections : List PlannedSection} {offset : Nat} {lot : Lot}

/-- The lots of a section and of its entry in the table, which stands at `offset`. -/
def lots (planned : PlannedSection) (offset : Nat) : List Lot :=
  [{ place := offset, room := 8, bytes := (Utf8.encode planned.name).take 8
     enough := List.length_take_le _ _ },
   .exact (offset + 8, Bytes.ofNat 4 planned.virtualSize),
   .exact (offset + 12, Bytes.ofNat 4 planned.rva),
   .exact (offset + 16, Bytes.ofNat 4 planned.content.length),
   .exact (offset + 36, Bytes.ofNat 4 planned.characteristics),
   { place := planned.rva, room := max planned.virtualSize planned.content.length,
     bytes := planned.content, enough := Nat.le_max_right _ _ }]

/-- The lots of the sections whose entries stand from `offset` on. -/
def row : List PlannedSection → Nat → List Lot
  | [], _ => []
  | planned :: rest, offset => planned.lots offset ++ row rest (offset + sectionHeaderSize)

theorem map_piece_row (sections : List PlannedSection) (offset : Nat) :
    (row sections offset).map Lot.piece = Blueprint.sectionPieces sections offset := by
  induction sections generalizing offset with
  | nil => rfl
  | cons planned rest ih =>
    rw [row, List.map_append, ih]
    rfl

/-- A lot of a section lies in its entry, or it is the section itself. -/
theorem bounds_of_mem_lots (member : lot ∈ planned.lots offset) :
    (offset ≤ lot.place ∧ lot.stop ≤ offset + 40) ∨
      (lot.place = planned.rva ∧ lot.stop = planned.stop) := by
  simp only [lots, List.mem_cons, List.not_mem_nil, or_false] at member
  rcases member with rfl | rfl | rfl | rfl | rfl | rfl
  case inr.inr.inr.inr.inr => exact .inr ⟨rfl, rfl⟩
  all_goals
    simp only [Lot.exact, Lot.stop, Bytes.length_ofNat]
    omega

theorem pairwise_lots (behind : offset + 40 ≤ planned.rva) :
    (planned.lots offset).Pairwise Lot.Apart := by
  simp only [lots, List.pairwise_cons, List.mem_cons, List.not_mem_nil, or_false,
    forall_eq_or_imp, forall_eq, Lot.Apart, Lot.exact, Lot.stop, Bytes.length_ofNat]
  and_intros <;> first | omega | simp

/-- A lot of a row of sections lies in the table, or it is one of the sections. -/
theorem bounds_of_mem_row (member : lot ∈ row sections offset) :
    (offset ≤ lot.place ∧ lot.stop ≤ offset + 40 * sections.length) ∨
      ∃ planned ∈ sections, lot.place = planned.rva ∧ lot.stop = planned.stop := by
  induction sections generalizing offset with
  | nil => cases member
  | cons planned rest ih =>
    rw [List.length_cons]
    cases List.mem_append.mp member with
    | inl here =>
      cases bounds_of_mem_lots here with
      | inl entry => exact .inl (by omega)
      | inr content => exact .inr ⟨planned, List.mem_cons_self, content⟩
    | inr later =>
      unfold sectionHeaderSize at later
      cases ih later with
      | inl entry => exact .inl (by omega)
      | inr content =>
        obtain ⟨other, among, same⟩ := content
        exact .inr ⟨other, List.mem_cons_of_mem _ among, same⟩

theorem pairwise_row
    (behind : ∀ planned ∈ sections, offset + 40 * sections.length ≤ planned.rva)
    (apart : sections.Pairwise fun a b => a.stop ≤ b.rva ∨ b.stop ≤ a.rva) :
    (row sections offset).Pairwise Lot.Apart := by
  induction sections generalizing offset with
  | nil => exact .nil
  | cons planned rest ih =>
    obtain ⟨first, others⟩ := List.pairwise_cons.mp apart
    have here := behind planned List.mem_cons_self
    have later : ∀ other ∈ rest, offset + 40 + 40 * rest.length ≤ other.rva := by
      intro other among
      have bound := behind other (List.mem_cons_of_mem _ among)
      rw [List.length_cons] at bound
      omega
    rw [List.length_cons] at here
    refine List.pairwise_append.mpr ⟨pairwise_lots (by omega), ih later others, ?_⟩
    intro a inFirst b inRest
    unfold sectionHeaderSize at inRest
    unfold Lot.Apart
    rcases bounds_of_mem_lots inFirst with entry | content <;>
      rcases bounds_of_mem_row inRest with entry' | ⟨other, among, content'⟩
    -- Two entries of the table are apart by their number, and all sections lie behind the table.
    · omega
    · have bound := later other among
      omega
    · omega
    · have aside := first other among
      omega

end PlannedSection

/-! ## Exports -/

namespace Blueprint

variable {blueprint : Blueprint} {functions names numbers number texts : Nat}
  {exports : List (String × Nat)} {lot : Lot}

/-- The lots of an export: its places in the three tables and its text. Behind the text there
is room for the zero that ends it. -/
def slot (functions names numbers : Nat) (entry : String × Nat) (number texts : Nat) : List Lot :=
  [.exact (functions + number * 4, Bytes.ofNat 4 entry.2),
   .exact (names + number * 4, Bytes.ofNat 4 texts),
   .exact (numbers + number * 2, Bytes.ofNat 2 number),
   { place := texts, room := (Utf8.encode entry.1).length + 1, bytes := Utf8.encode entry.1
     enough := Nat.le_succ _ }]

/-- The lots of the exports from number `number` on, whose texts start at `texts`. -/
def slotLots (functions names numbers : Nat) : List (String × Nat) → (number texts : Nat) → List Lot
  | [], _, _ => []
  | entry :: rest, number, texts =>
    slot functions names numbers entry number texts ++
      slotLots functions names numbers rest (number + 1)
        (texts + (Utf8.encode entry.1).length + 1)

theorem map_piece_slotLots :
    (slotLots functions names numbers exports number texts).map Lot.piece =
      exportSlots functions names numbers exports number texts := by
  induction exports generalizing number texts with
  | nil => rfl
  | cons entry rest ih =>
    rw [slotLots, List.map_append, ih]
    rfl

theorem length_exportTexts_cons (entry : String × Nat) (rest : List (String × Nat)) :
    (exportTexts (entry :: rest)).length =
      (Utf8.encode entry.1).length + 1 + (exportTexts rest).length := by
  rw [exportTexts, List.flatMap_cons, List.length_append, List.length_append]
  rfl

/-- A lot of an export lies in one of the three tables or among the texts. -/
theorem bounds_of_mem_slotLots
    (member : lot ∈ slotLots functions names numbers exports number texts) :
    (functions + number * 4 ≤ lot.place ∧
      lot.stop ≤ functions + (number + exports.length) * 4) ∨
    (names + number * 4 ≤ lot.place ∧ lot.stop ≤ names + (number + exports.length) * 4) ∨
    (numbers + number * 2 ≤ lot.place ∧ lot.stop ≤ numbers + (number + exports.length) * 2) ∨
    (texts ≤ lot.place ∧ lot.stop ≤ texts + (exportTexts exports).length) := by
  induction exports generalizing number texts with
  | nil => cases member
  | cons entry rest ih =>
    rw [List.length_cons, length_exportTexts_cons]
    cases List.mem_append.mp member with
    | inl here =>
      simp only [slot, List.mem_cons, List.not_mem_nil, or_false] at here
      rcases here with rfl | rfl | rfl | rfl <;>
        simp only [Lot.exact, Lot.stop, Bytes.length_ofNat] <;> omega
    | inr later =>
      have bounds := ih later
      omega

/-- Tables that lie one behind another, and the texts behind them, have room for all. -/
theorem pairwise_slotLots (first : functions + (number + exports.length) * 4 ≤ names)
    (second : names + (number + exports.length) * 4 ≤ numbers)
    (third : numbers + (number + exports.length) * 2 ≤ texts) :
    (slotLots functions names numbers exports number texts).Pairwise Lot.Apart := by
  induction exports generalizing number texts with
  | nil => exact .nil
  | cons entry rest ih =>
    rw [List.length_cons] at first second third
    have later := @ih (number + 1) (texts + (Utf8.encode entry.1).length + 1)
      (by omega) (by omega) (by omega)
    refine List.pairwise_append.mpr ⟨?_, later, fun lot here other among => ?_⟩
    · simp only [slot, List.pairwise_cons, List.mem_cons, List.not_mem_nil, or_false,
        forall_eq_or_imp, forall_eq, Lot.Apart, Lot.exact, Lot.stop, Bytes.length_ofNat]
      and_intros <;> first | omega | simp
    · have bounds := bounds_of_mem_slotLots among
      simp only [slot, List.mem_cons, List.not_mem_nil, or_false] at here
      rcases here with rfl | rfl | rfl | rfl <;>
        simp only [Lot.Apart, Lot.exact, Lot.stop, Bytes.length_ofNat] at bounds ⊢ <;> omega

/-- The lots of the export directory and of the entry that points to it. -/
def exportLots (blueprint : Blueprint) (entry : Nat) : List Lot :=
  if blueprint.exports.isEmpty then []
  else
    let count := blueprint.exports.length
    let (functions, names, numbers, texts) := exportTables count
    [.exact (exportPlace + 16, Bytes.ofNat 4 1),
     .exact (exportPlace + 20, Bytes.ofNat 4 count),
     .exact (exportPlace + 24, Bytes.ofNat 4 count),
     .exact (exportPlace + 28, Bytes.ofNat 4 functions),
     .exact (exportPlace + 32, Bytes.ofNat 4 names),
     .exact (exportPlace + 36, Bytes.ofNat 4 numbers)] ++
    slotLots functions names numbers blueprint.exports 0 texts ++
    [.exact (entry, Bytes.ofNat 4 exportPlace),
     .exact (entry + 4,
       Bytes.ofNat 4 (texts + (exportTexts blueprint.exports).length - exportPlace))]

theorem map_piece_exportLots (entry : Nat) :
    (blueprint.exportLots entry).map Lot.piece = blueprint.exportPieces entry := by
  unfold exportLots exportPieces
  split
  · rfl
  · simp only [exportTables, List.map_append, map_piece_slotLots]
    rfl

theorem bounds_of_mem_exportLots {entry : Nat} (member : lot ∈ blueprint.exportLots entry) :
    (exportPlace + 16 ≤ lot.place ∧ lot.stop ≤ blueprint.exportStop) ∨
      (entry ≤ lot.place ∧ lot.stop ≤ entry + 8) := by
  unfold exportLots at member
  split at member
  · cases member
  · unfold exportStop
    simp only [exportTables, List.mem_append, List.mem_cons, List.not_mem_nil, or_false]
      at member
    rcases member with (fixed | slot) | pointer
    · refine .inl ?_
      rcases fixed with rfl | rfl | rfl | rfl | rfl | rfl <;>
        simp only [Lot.exact, Lot.stop, Bytes.length_ofNat] <;> omega
    · have bounds := bounds_of_mem_slotLots slot
      omega
    · refine .inr ?_
      rcases pointer with rfl | rfl <;>
        simp only [Lot.exact, Lot.stop, Bytes.length_ofNat] <;> omega

theorem pairwise_exportLots {entry : Nat} (above : entry + 8 ≤ exportPlace) :
    (blueprint.exportLots entry).Pairwise Lot.Apart := by
  unfold exportLots
  split
  · exact .nil
  dsimp only [exportTables]
  have slots := @pairwise_slotLots (exportPlace + 40)
    (exportPlace + 40 + blueprint.exports.length * 4)
    (exportPlace + 40 + blueprint.exports.length * 4 + blueprint.exports.length * 4) 0
    (exportPlace + 40 + blueprint.exports.length * 4 + blueprint.exports.length * 4 +
      blueprint.exports.length * 2) blueprint.exports (by omega) (by omega) (by omega)
  refine List.pairwise_append.mpr ⟨List.pairwise_append.mpr ⟨?_, slots, ?_⟩, ?_, ?_⟩
  · simp [Lot.Apart, Lot.exact, Lot.stop]
  · intro a fixed b slot
    have bounds := bounds_of_mem_slotLots slot
    simp only [List.mem_cons, List.not_mem_nil, or_false] at fixed
    rcases fixed with rfl | rfl | rfl | rfl | rfl | rfl <;>
      simp only [Lot.Apart, Lot.exact, Lot.stop, Bytes.length_ofNat] at bounds ⊢ <;> omega
  · simp [Lot.Apart, Lot.exact, Lot.stop]
  · intro a inDirectory b pointer
    have front : exportPlace + 16 ≤ a.place := by
      cases List.mem_append.mp inDirectory with
      | inl fixed =>
        simp only [List.mem_cons, List.not_mem_nil, or_false] at fixed
        rcases fixed with rfl | rfl | rfl | rfl | rfl | rfl <;>
          exact Nat.add_le_add_left (by decide) _
      | inr slot =>
        have bounds := bounds_of_mem_slotLots slot
        omega
    simp only [List.mem_cons, List.not_mem_nil, or_false] at pointer
    rcases pointer with rfl | rfl <;>
      simp only [Lot.Apart, Lot.exact, Lot.stop, Bytes.length_ofNat] <;> omega

/-! ## Headers -/

def headerLots (blueprint : Blueprint) : List Lot :=
  (blueprint.dosPieces ++ blueprint.headerPieces).map .exact

theorem bounds_of_mem_headerLots (behind : 0x40 ≤ blueprint.nextHeader)
    (member : lot ∈ blueprint.headerLots) : lot.stop ≤ blueprint.directories := by
  obtain ⟨piece, among, rfl⟩ := List.mem_map.mp member
  unfold dosPieces headerPieces basePiece at among
  unfold directories
  cases layout : blueprint.layout
  all_goals
    simp only [layout, List.cons_append, List.nil_append, List.mem_cons, List.not_mem_nil,
      or_false, Layout.fixedSize] at among ⊢
    rcases among with rfl | rfl | rfl | rfl | rfl | rfl | rfl | rfl | rfl | rfl | rfl | rfl <;>
      simp only [Lot.exact, Lot.stop, Bytes.length_ofNat, peSignature, List.length_cons,
        List.length_nil] <;> omega

theorem pairwise_headerLots (behind : 0x40 ≤ blueprint.nextHeader) :
    blueprint.headerLots.Pairwise Lot.Apart := by
  unfold headerLots dosPieces headerPieces basePiece
  cases layout : blueprint.layout
  all_goals
    simp only [List.cons_append, List.nil_append, List.map_cons, List.map_nil,
      List.pairwise_cons, List.mem_cons, List.not_mem_nil, or_false, forall_eq_or_imp, forall_eq,
      Lot.Apart, Lot.exact, Lot.stop, Bytes.length_ofNat, peSignature, List.length_cons,
      List.length_nil, Layout.fixedSize]
    and_intros <;> first | omega | simp

/-! ## The whole image -/

def lots (blueprint : Blueprint) : List Lot :=
  blueprint.headerLots ++ blueprint.exportLots blueprint.directories ++
    PlannedSection.row blueprint.sections blueprint.table

theorem pageSize_le_size (blueprint : Blueprint) : pageSize ≤ blueprint.size := by
  unfold size
  exact Nat.le_mul_of_pos_left _ (Nat.lt_of_lt_of_le Nat.one_pos (Nat.le_max_right _ _))

theorem stop_le_size {planned : PlannedSection} (member : planned ∈ blueprint.sections) :
    planned.stop ≤ blueprint.size := by
  cases furthest : (blueprint.sections.map PlannedSection.stop).max? with
  | none =>
    rw [List.max?_eq_none_iff, List.map_eq_nil_iff] at furthest
    rw [furthest] at member
    cases member
  | some stop =>
    have bound : planned.stop ≤ stop :=
      (List.max?_eq_some_iff.mp furthest).2 _ (List.mem_map_of_mem member)
    unfold size
    rw [furthest, Option.getD_some]
    simp only [pageSize]
    omega

theorem directories_le (blueprint : Blueprint) : blueprint.directories + 8 ≤ blueprint.table := by
  unfold directories table optionalSize
  omega

namespace Coherent

variable (coherent : blueprint.Coherent)
include coherent

theorem table_le : blueprint.table ≤ exportPlace := by
  have tabled := coherent.tabled
  unfold tableStop at tabled
  omega

theorem pairwise_lots : blueprint.lots.Pairwise Lot.Apart := by
  have directories := blueprint.directories_le
  have table := coherent.table_le
  have tabled := coherent.tabled
  have paged := coherent.paged
  have header : exportPlace < pageSize := by decide
  unfold tableStop at tabled
  have sections : (PlannedSection.row blueprint.sections blueprint.table).Pairwise Lot.Apart :=
    PlannedSection.pairwise_row
      (fun planned among => by
        have above := (coherent.placed planned among).above
        omega) coherent.apart
  refine List.pairwise_append.mpr ⟨List.pairwise_append.mpr ⟨pairwise_headerLots coherent.behind,
    pairwise_exportLots (by omega), ?_⟩, sections, ?_⟩
  · intro a inHeader b inExports
    have bound := bounds_of_mem_headerLots coherent.behind inHeader
    have bounds := bounds_of_mem_exportLots inExports
    unfold Lot.Apart
    omega
  · intro a inFront b inRow
    have bounds := PlannedSection.bounds_of_mem_row inRow
    have front : a.stop ≤ blueprint.table ∨
        (exportPlace ≤ a.place ∧ a.stop ≤ pageSize) := by
      cases List.mem_append.mp inFront with
      | inl inHeader =>
        have bound := bounds_of_mem_headerLots coherent.behind inHeader
        omega
      | inr inExports =>
        have bounds := bounds_of_mem_exportLots inExports
        omega
    unfold Lot.Apart
    rcases bounds with entry | ⟨planned, among, content⟩
    · omega
    · have above := (coherent.placed planned among).above
      omega

/-- Where a lot can lie: in the headers, in the entry of the export directory if there are
exports, in that directory, in the table of sections or in a section. -/
theorem bounds_of_mem {lot : Lot} (member : lot ∈ blueprint.lots) :
    lot.stop ≤ blueprint.directories ∨
    (blueprint.exports ≠ [] ∧ blueprint.directories ≤ lot.place ∧
      lot.stop ≤ blueprint.directories + 8) ∨
    (exportPlace + 16 ≤ lot.place ∧ lot.stop ≤ pageSize) ∨
    (blueprint.table ≤ lot.place ∧ lot.stop ≤ exportPlace) ∨
    ∃ planned ∈ blueprint.sections, lot.place = planned.rva ∧ lot.stop = planned.stop := by
  have tabled := coherent.tabled
  have paged := coherent.paged
  unfold tableStop at tabled
  rcases List.mem_append.mp member with inFront | inRow
  · rcases List.mem_append.mp inFront with inHeader | inExports
    · exact .inl (bounds_of_mem_headerLots coherent.behind inHeader)
    · have any : blueprint.exports ≠ [] := by
        rintro none
        simp [exportLots, none] at inExports
      cases bounds_of_mem_exportLots inExports with
      | inl directory => exact .inr (.inr (.inl ⟨directory.1, Nat.le_trans directory.2 paged⟩))
      | inr entry => exact .inr (.inl ⟨any, entry⟩)
  · rcases PlannedSection.bounds_of_mem_row inRow with entry | content
    · exact .inr (.inr (.inr (.inl ⟨entry.1, Nat.le_trans entry.2 tabled⟩)))
    · exact .inr (.inr (.inr (.inr content)))

theorem stop_le {lot : Lot} (member : lot ∈ blueprint.lots) : lot.stop ≤ blueprint.size := by
  have table := coherent.table_le
  have directories := blueprint.directories_le
  have least := blueprint.pageSize_le_size
  have header : exportPlace < pageSize := by decide
  rcases coherent.bounds_of_mem member with _ | _ | _ | _ | ⟨planned, among, content⟩
  case inr.inr.inr.inr =>
    have bound := stop_le_size among
    omega
  all_goals omega

/-- The image is what its lots say. -/
theorem build_eq : blueprint.build =
    written (List.replicate blueprint.size 0) (blueprint.lots.map Lot.piece) := by
  have tabled := coherent.table_le
  have least := blueprint.pageSize_le_size
  have room : ¬blueprint.size < blueprint.nextHeader + 0x200 := by
    have header : exportPlace + 0x200 < pageSize := by decide
    unfold table at tabled
    omega
  have all : blueprint.lots.map Lot.piece = blueprint.pieces := by
    unfold lots pieces headerLots
    rw [if_neg room, List.map_append, List.map_append, map_piece_exportLots,
      PlannedSection.map_piece_row, List.map_map]
    congr 2
  rw [all]
  rfl

theorem length_build : blueprint.build.length = blueprint.size := by
  rw [coherent.build_eq, length_written, List.length_replicate]

/-- Every lot holds what is written into it. -/
theorem sits {lot : Lot} (member : lot ∈ blueprint.lots) : lot.Sits blueprint.build := by
  rw [coherent.build_eq]
  exact Lot.sits_of_mem coherent.pairwise_lots (fun _ among => coherent.stop_le among) member

/-- What no lot takes is zero. -/
theorem sits_free {place room : Nat} (inside : place + room ≤ blueprint.size)
    (untaken : ∀ other ∈ blueprint.lots, (Lot.free place room).Apart other) :
    (Lot.free place room).Sits blueprint.build := by
  rw [coherent.build_eq]
  exact Lot.sits_free coherent.pairwise_lots (fun _ among => coherent.stop_le among) inside untaken

end Coherent

end Blueprint

end Landmark.Image
