import Landmark.Proofs.Bisection
import Landmark.Proofs.Routine.Redecoding

/-! # Looking at one instruction after another

Where an address stands among the instructions of a function is found by halving. As they ascend
and none runs into the next, that comes to looking at each of them in turn, and all that is between
the first and the last is an instruction or a hole.
-/

namespace Landmark

namespace Routine

/-! ## Asking by halving -/

/-- Whether an address is covered, where a search says how many instructions start at or below
it. -/
def containsBy (search : (Decoding → Bool) → List Decoding → Nat) (routine : Routine)
    (address : Nat) : Bool :=
  match search (fun i => i.address ≤ address) routine.instructions with
  | 0 => false
  | count + 1 => routine.instructions[count]?.any fun i => i.covers address

/-- The instructions at an address or above, where a search says how many start below it. -/
def instructionsFromBy (search : (Decoding → Bool) → List Decoding → Nat) (routine : Routine)
    (address : Nat) : List Decoding :=
  routine.instructions.drop (search (fun i => i.address < address) routine.instructions)

/-- The sizes of what is between neighbours, also where that is nothing. -/
def holes (row : List Decoding) : List Nat :=
  List.zipWith (fun first second => second.address - first.stop) row row.tail

/-- What is asked of a function is answered as by looking at its instructions in turn. -/
structure Scanned (search : (Decoding → Bool) → List Decoding → Nat) (routine : Routine) : Prop
    where
  halved : ∀ address, routine.containsBy search address = routine.contains address ∧
    routine.instructionsFromBy search address = routine.instructionsFrom address
  contains : ∀ address,
    routine.contains address = routine.instructions.any fun i => i.covers address
  above : ∀ address,
    routine.instructionsFrom address = routine.instructions.filter fun i => address ≤ i.address
  /-- The calls below an address come first. -/
  called : ∀ address, (routine.callTargets none).value =
    (routine.instructions.filter fun i => i.isCall && i.address < address).filterMap
      routine.target? ++ (routine.callTargets (some address)).value
  found : ∀ address isWanted, routine.find (some address) isWanted =
    (routine.instructions.filter fun i =>
      (routine.detail? i).any isWanted && address ≤ i.address).map Decoding.address
  ascending : ∀ address isWanted, (routine.find (some address) isWanted).Pairwise (· < ·)
  alone : ∀ start isWanted one,
    (routine.findOnly start isWanted).value = some one ↔ routine.find start isWanted = [one]
  entered : ∃ i ∈ routine.instructions, i.address = routine.entry
  held : routine.contains routine.entry
  around : routine.start ≤ routine.entry ∧ routine.entry < routine.stop
  within : ∀ address, routine.contains address → routine.start ≤ address ∧ address < routine.stop
  extent : routine.start + (routine.instructions.map Decoding.length).sum +
    (holes routine.instructions).sum = routine.stop
  gaps : routine.gaps = (holes routine.instructions).countP (0 < ·)
  solid : routine.gaps = 0 ↔
    ∀ address, routine.start ≤ address → address < routine.stop → routine.contains address

section Row

variable {row : List Decoding} {first last : Decoding}

theorem holes_cons_cons (first second : Decoding) (rest : List Decoding) :
    holes (first :: second :: rest) =
      (second.address - first.stop) :: holes (second :: rest) := rfl

theorem rooms_eq_filter (row : List Decoding) : rooms row = (holes row).filter (0 < ·) := by
  fun_induction rooms row with
  | case1 first second rest room none ih =>
    rw [ih, holes_cons_cons,
      List.filter_cons_of_neg (by simpa using Nat.sub_eq_zero_iff_le.mp none)]
  | case2 first second rest room some ih =>
    rw [ih, holes_cons_cons, List.filter_cons_of_pos (by simpa using Nat.lt_of_sub_ne_zero some)]
  | case3 row short =>
    rcases Extent.nil_or_singleton short with rfl | ⟨last, rfl⟩
    · rfl
    · rfl

/-- Instructions and holes fill the way from the first to the end of the last. -/
theorem sum_extent (chain : row.IsChain fun a b => a.stop ≤ b.address)
    (front : row.head? = some first) (back : row.getLast? = some last) :
    first.address + (row.map Decoding.length).sum + (holes row).sum = last.stop := by
  induction row generalizing first with
  | nil => cases front
  | cons head rest ih =>
    obtain rfl := Option.some.inj front
    cases rest with
    | nil =>
      obtain rfl := Option.some.inj back
      rfl
    | cons second rest =>
      obtain ⟨apart, chain⟩ := List.isChain_cons_cons.mp chain
      have later := ih chain rfl back
      rw [holes_cons_cons, List.map_cons, List.sum_cons, List.sum_cons]
      unfold Decoding.stop at *
      omega

theorem address_le_head? (apart : row.Pairwise fun a b => a.stop ≤ b.address)
    (front : row.head? = some first) {i : Decoding} (member : i ∈ row) :
    first.address ≤ i.address := by
  obtain ⟨rest, rfl⟩ := List.head?_eq_some_iff.mp front
  rcases List.mem_cons.mp member with rfl | later
  · exact le_rfl
  · exact (Nat.le_add_right _ _).trans ((List.pairwise_cons.mp apart).1 i later)

theorem stop_le_of_mem (apart : row.Pairwise fun a b => a.stop ≤ b.address)
    (back : row.getLast? = some last) {i : Decoding} (member : i ∈ row) : i.stop ≤ last.stop := by
  obtain ⟨before, rfl⟩ := List.getLast?_eq_some_iff.mp back
  rcases List.mem_append.mp member with earlier | same
  · have below := (List.pairwise_append.mp apart).2.2 i earlier last (List.mem_singleton_self _)
    exact below.trans (Nat.le_add_right _ _)
  · rw [List.mem_singleton.mp same]

/-- Without a hole everything between is covered, and where a hole begins nothing is. -/
theorem holes_zero_iff (apart : row.Pairwise fun a b => a.stop ≤ b.address)
    (front : row.head? = some first) (back : row.getLast? = some last) :
    (∀ hole ∈ holes row, hole = 0) ↔
      ∀ address, first.address ≤ address → address < last.stop →
        ∃ i ∈ row, i.address ≤ address ∧ address < i.stop := by
  induction row generalizing first with
  | nil => cases front
  | cons head rest ih =>
    obtain rfl := Option.some.inj front
    cases rest with
    | nil =>
      obtain rfl := Option.some.inj back
      exact ⟨fun _ address starts ends => ⟨head, List.mem_cons_self, starts, ends⟩, fun _ => nofun⟩
    | cons second rest =>
      have reach := sum_extent (List.isChain_cons_cons.mp apart.isChain).2 rfl back
      obtain ⟨behind, apart⟩ := List.pairwise_cons.mp apart
      have next := behind second List.mem_cons_self
      rw [holes_cons_cons, List.forall_mem_cons, ih apart rfl back]
      constructor
      · rintro ⟨none, later⟩ address starts ends
        by_cases inside : address < head.stop
        · exact ⟨head, List.mem_cons_self, starts, inside⟩
        · obtain ⟨i, member, covers⟩ := later address (by omega) ends
          exact ⟨i, List.mem_cons_of_mem _ member, covers⟩
      · intro covered
        have further : ∀ address, head.stop ≤ address → address < last.stop →
            ∃ i ∈ second :: rest, i.address ≤ address ∧ address < i.stop := by
          intro address starts ends
          obtain ⟨i, member, covers⟩ := covered address
            ((Nat.le_add_right _ _).trans starts) ends
          rcases List.mem_cons.mp member with rfl | later
          · omega
          · exact ⟨i, later, covers⟩
        refine ⟨?_, fun address starts => further address (next.trans starts)⟩
        -- The end of the first is covered by one that starts no later than the second.
        by_contra hole
        obtain ⟨i, member, starts, _⟩ := further head.stop le_rfl (by omega)
        have least := address_le_head? apart rfl member
        omega

end Row

/-! ## What is asked of a function -/

variable {search : (Decoding → Bool) → List Decoding → Nat} {routine : Routine}
  {address : Nat}

section Order

variable (ascend : routine.instructions.Pairwise fun a b => a.address < b.address)
include ascend

theorem falls_le (address : Nat) : Falls (fun i => i.address ≤ address) routine.instructions := by
  refine ascend.imp fun {a b} less below => ?_
  simp only [decide_eq_true_eq] at below ⊢
  omega

theorem falls_lt (address : Nat) : Falls (fun i => i.address < address) routine.instructions := by
  refine ascend.imp fun {a b} less below => ?_
  simp only [decide_eq_true_eq] at below ⊢
  omega

theorem containsBy_eq (counts : Counts search) :
    routine.containsBy search address = routine.contains address := by
  have falls := falls_le ascend address
  rw [containsBy, contains, counts falls, Checked.getLast?_takeWhile_eq, falls.partitionPoint_eq]
  cases routine.instructions.countP fun i => decide (i.address ≤ address) with
  | zero => rfl
  | succ count =>
    rw [if_neg (Nat.succ_ne_zero count), Nat.succ_sub_one]
    dsimp only
    cases routine.instructions[count]? <;> rfl

theorem instructionsFrom_eq_filter :
    routine.instructionsFrom address =
      routine.instructions.filter fun i => address ≤ i.address := by
  rw [instructionsFrom, (falls_lt ascend address).dropWhile_eq]
  refine List.filter_congr fun i _ => ?_
  rw [← decide_not]
  exact decide_eq_decide.mpr Nat.not_lt

theorem instructionsFromBy_eq (counts : Counts search) :
    routine.instructionsFromBy search address = routine.instructionsFrom address := by
  have falls := falls_lt ascend address
  rw [instructionsFromBy, counts falls, ← falls.partitionPoint_eq, instructionsFrom,
    List.dropWhile_eq_drop_findIdx_not]
  rfl

theorem value_callTargets_split :
    (routine.callTargets none).value =
      (routine.instructions.filter fun i => i.isCall && i.address < address).filterMap
        routine.target? ++ (routine.callTargets (some address)).value := by
  have split := (falls_lt ascend address).split
  calc (routine.callTargets none).value
      = (routine.instructions.filter Decoding.isCall).filterMap routine.target? := rfl
    _ = ((routine.instructions.filter (fun i => i.address < address) ++
          routine.instructionsFrom address).filter Decoding.isCall).filterMap routine.target? := by
        rw [instructionsFrom, (falls_lt ascend address).dropWhile_eq, split]
    _ = _ := by
        rw [List.filter_append, List.filterMap_append, List.filter_filter]
        rfl

theorem find_eq (isWanted : X86.Instruction → Bool) :
    routine.find (some address) isWanted =
      (routine.instructions.filter fun i =>
        (routine.detail? i).any isWanted && address ≤ i.address).map Decoding.address := by
  rw [find, tail, instructionsFrom_eq_filter ascend, List.filter_filter]

theorem pairwise_find (start : Option Nat) (isWanted : X86.Instruction → Bool) :
    (routine.find start isWanted).Pairwise (· < ·) := by
  have rest : (routine.tail start).Sublist routine.instructions := by
    cases start with
    | none => exact .refl _
    | some address => exact List.dropWhile_sublist _
  exact List.pairwise_map.mpr (ascend.sublist (List.filter_sublist.trans rest))

end Order

theorem value_findOnly_eq_some_iff {start : Option Nat} {isWanted : X86.Instruction → Bool}
    {one : Nat} :
    (routine.findOnly start isWanted).value = some one ↔ routine.find start isWanted = [one] := by
  unfold findOnly
  split
  next found =>
    rw [found]
    simp
  next many =>
    constructor
    · intro same
      cases same
    · intro single
      exact absurd single (many one)

theorem contains_eq_any (apart : routine.instructions.Pairwise fun a b => a.stop ≤ b.address) :
    routine.contains address = routine.instructions.any fun i => i.covers address := by
  rw [Bool.eq_iff_iff, contains_iff_covers apart, List.any_eq_true]
  simp only [Covers, Decoding.covers, Bool.and_eq_true, decide_eq_true_eq]

theorem exists_ends {i : Decoding} (member : i ∈ routine.instructions) :
    ∃ first last, routine.instructions.head? = some first ∧
      routine.instructions.getLast? = some last ∧
      routine.start = first.address ∧ routine.stop = last.stop := by
  have some : routine.instructions ≠ [] := List.ne_nil_of_mem member
  have front := List.head?_eq_some_head some
  have back := List.getLast?_eq_some_getLast some
  refine ⟨_, _, front, back, ?_, ?_⟩
  · rw [start, front]
  · rw [stop, back]

/-- **Asking a function is looking at its instructions.** Of every function that is reconstructed,
by a disassembler whose instructions take at least a byte, what a search by halving finds is what
looking at each instruction finds: which addresses are covered, what stands at an address or above,
which calls and which instructions as asked for there are from an address on. The function holds its
entry and nothing outside its start and end, and instructions and holes fill what is between. -/
theorem scanned_of_parse {segment : Segment} {disassembler : Disassembler} {entry limit : Nat}
    (located : disassembler.Located) (advances : disassembler.Advances) (counts : Counts search)
    (parsed : (parse segment disassembler entry limit).result = .ok routine) :
    Scanned search routine := by
  let task : Discovery.Task := { segment, disassembler, limit }
  have yields : task.Yields entry routine := (Discovery.Task.parse_eq_ok_iff located).mp parsed
  have ascend := yields.ascend located
  have apart := yields.apart located
  have gaps : routine.gaps = (holes routine.instructions).countP (0 < ·) := by
    obtain ⟨_, _, found, _, rfl⟩ := yields
    rw [List.countP_eq_length_filter, ← rooms_eq_filter]
    rfl
  obtain ⟨i, member, here⟩ := (yields.reaches_iff located).mp .refl
  rw [← yields.entry_eq] at here
  obtain ⟨window, _, decoded⟩ := yields.decodes located member
  have positive : i.address < i.stop := Nat.lt_add_of_pos_right (advances _ _ _ decoded)
  obtain ⟨first, last, front, back, start, stop⟩ := exists_ends member
  have between : ∀ {address}, routine.Covers address →
      routine.start ≤ address ∧ address < routine.stop := by
    rintro address ⟨j, member, starts, ends⟩
    rw [start, stop]
    exact ⟨(address_le_head? apart front member).trans starts,
      ends.trans_le (stop_le_of_mem apart back member)⟩
  have covered : routine.Covers routine.entry :=
    ⟨i, member, here.le, here ▸ positive⟩
  have solid := holes_zero_iff apart front back
  rw [← start, ← stop] at solid
  exact
    { halved := fun _ => ⟨containsBy_eq ascend counts, instructionsFromBy_eq ascend counts⟩
      contains := fun _ => contains_eq_any apart
      above := fun _ => instructionsFrom_eq_filter ascend
      called := fun _ => value_callTargets_split ascend
      found := fun _ => find_eq ascend
      ascending := fun address => pairwise_find ascend (some address)
      alone := fun _ _ _ => value_findOnly_eq_some_iff
      entered := ⟨i, member, here⟩
      held := (contains_iff_covers apart).mpr covered
      around := between covered
      within := fun _ held => between ((contains_iff_covers apart).mp held)
      extent := by
        rw [start, stop]
        exact sum_extent apart.isChain front back
      gaps
      solid := by
        rw [gaps, List.countP_eq_zero]
        simp only [decide_eq_true_eq, Nat.not_lt, Nat.le_zero, solid]
        exact forall_congr' fun address => imp_congr_right fun _ => imp_congr_right fun _ =>
          (contains_iff_covers apart).symm }

/-- A function that is entered behind a branch back to a return, with a byte of filler between the
two. -/
def returning : Discovery.Task where
  segment :=
    { name := ".text"
      base := 0x401000
      data := [0xCC, 0xC3, 0xCC, 0x75, 0xFC, 0xE8, 0xF6, 0x0F, 0x00, 0x00, 0xC3] }
  disassembler := X86.disassembler 32
  limit := 4

def returningRow : List (Nat × Decoding) :=
  [(0x401001, { address := 0x401001, length := 1, mnemonic := .ret, category := .return }),
    (0x401003,
      { address := 0x401003, length := 2, mnemonic := .jcc .ne, category := .conditional }),
    (0x401005, { address := 0x401005, length := 5, mnemonic := .call, category := .call }),
    (0x40100A, { address := 0x40100A, length := 1, mnemonic := .ret, category := .return })]

theorem returning_scanned :
    let halving := fun (holds : Decoding → Bool) row => bisect holds row 0 row.length
    (X86.disassembler 32).Located ∧ (X86.disassembler 32).Advances ∧ Counts halving ∧
    (parse returning.segment (X86.disassembler 32) 0x401003 4).result =
      .ok (returning.routineOf 0x401003 returningRow) ∧
    Scanned halving (returning.routineOf 0x401003 returningRow) := by
  have located : (X86.disassembler 32).Located := Disassembler.located_ofBits 32
  have advances : (X86.disassembler 32).Advances :=
    Disassembler.advances_ofDetail (Decoder.steady_detail X86.steady_decoder 32)
  have parsed : (returning.parse 0x401003).result =
      .ok (returning.routineOf 0x401003 returningRow) :=
    Checked.result_parse_eq (by unfold Segment.Low; decide) located
      (Disassembler.short_ofBits X86.short_decoder 32) (by decide +kernel) (by decide)
  exact ⟨located, advances, counts_bisect, parsed,
    scanned_of_parse located advances counts_bisect parsed⟩

end Routine

end Landmark
