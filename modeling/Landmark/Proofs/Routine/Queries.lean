import Landmark.Proofs.Routine.Reconstruction

/-! # Asking a reconstructed function

The instructions of a function stand in the order of their addresses and share no
bytes, so the last one that starts at or below an address is the only one that can
cover it.
-/

namespace Landmark

namespace Routine

variable {routine : Routine} {address : Nat}

/-- An address is that of a byte of one of the instructions. -/
def Covers (routine : Routine) (address : Nat) : Prop :=
  ∃ i ∈ routine.instructions, i.address ≤ address ∧ address < i.stop

theorem covers_of_contains (held : routine.contains address = true) : routine.Covers address := by
  unfold contains at held
  split at held
  next last found =>
    have member := List.takeWhile_subset _ (List.mem_of_getLast? found)
    simp only [Decoding.covers, Bool.and_eq_true, decide_eq_true_eq] at held
    exact ⟨last, member, held⟩
  next => cases held

theorem contains_iff_covers
    (apart : routine.instructions.Pairwise fun a b => a.stop ≤ b.address) :
    routine.contains address = true ↔ routine.Covers address := by
  refine ⟨covers_of_contains, ?_⟩
  rintro ⟨i, member, starts, ends⟩
  obtain ⟨front, behind, split⟩ := List.append_of_mem member
  rw [split] at apart
  obtain ⟨_, rest, across⟩ := List.pairwise_append.mp apart
  have earlier : ∀ j ∈ front, decide (j.address ≤ address) = true := by
    intro j place
    have stop := across j place i List.mem_cons_self
    have start : j.address ≤ j.stop := Nat.le_add_right _ _
    exact decide_eq_true (by omega)
  have front_eq : routine.instructions.takeWhile (fun j => j.address ≤ address) =
      front ++ [i] := by
    rw [split, List.takeWhile_append_of_pos earlier, List.takeWhile_cons,
      if_pos (decide_eq_true starts)]
    cases behind with
    | nil => rfl
    | cons next behind =>
      have above := (List.pairwise_cons.mp rest).1 next List.mem_cons_self
      rw [List.takeWhile_cons_of_neg (by simpa using (by omega : address < next.address))]
  simp only [contains, front_eq, List.getLast?_append, List.getLast?_singleton, Option.some_or,
    Decoding.covers, Bool.and_eq_true, decide_eq_true_eq]
  exact ⟨starts, ends⟩

end Routine

namespace Discovery.Task

variable {task : Task} {entry : Nat} {routine : Routine}

/-- The function that control reaches from an entry, where there is one. -/
def Yields (task : Task) (entry : Nat) (routine : Routine) : Prop :=
  task.Traceable entry ∧ task.Apart entry ∧
    ∃ found, task.Traces entry found ∧ routine = task.routineOf entry found

theorem toOption_parse_eq_some_iff (located : task.disassembler.Located) :
    (task.parse entry).result.toOption = some routine ↔ task.Yields entry routine := by
  rw [toOption_eq_some_iff]
  exact parse_eq_ok_iff located

namespace Yields

theorem entry_eq (yields : task.Yields entry routine) : routine.entry = entry := by
  obtain ⟨_, _, found, _, rfl⟩ := yields
  rfl

theorem segment_eq (yields : task.Yields entry routine) : routine.segment = task.segment := by
  obtain ⟨_, _, found, _, rfl⟩ := yields
  rfl

theorem disassembler_eq (yields : task.Yields entry routine) :
    routine.disassembler = task.disassembler := by
  obtain ⟨_, _, found, _, rfl⟩ := yields
  rfl

theorem unique {other : Routine} (first : task.Yields entry routine)
    (second : task.Yields entry other) : routine = other := by
  obtain ⟨_, _, found, traces, rfl⟩ := first
  obtain ⟨_, _, again, traces', rfl⟩ := second
  rw [traces.unique traces']

theorem apart (located : task.disassembler.Located) (yields : task.Yields entry routine) :
    routine.instructions.Pairwise fun a b => a.stop ≤ b.address := by
  obtain ⟨_, apart, found, traces, rfl⟩ := yields
  have ascending := (traces.instructions_ascend located).imp fun {a b} => Nat.le_of_lt
  exact Extent.pairwise_of_isChain ascending ((traces.isChain_iff_apart located).mpr apart)

theorem ascend (located : task.disassembler.Located) (yields : task.Yields entry routine) :
    routine.instructions.Pairwise fun a b => a.address < b.address := by
  obtain ⟨_, _, found, traces, rfl⟩ := yields
  exact traces.instructions_ascend located

/-- The instructions of a function are those at the addresses that control reaches. -/
theorem reaches_iff (located : task.disassembler.Located) (yields : task.Yields entry routine)
    {address : Nat} :
    task.Reaches entry address ↔ ∃ i ∈ routine.instructions, i.address = address := by
  obtain ⟨_, _, found, traces, rfl⟩ := yields
  rw [← traces.addresses address]
  constructor
  · intro member
    obtain ⟨⟨_, i⟩, inRow, rfl⟩ := List.mem_map.mp member
    exact ⟨i, List.mem_map_of_mem inRow, traces.address_eq located inRow⟩
  · rintro ⟨i, member, rfl⟩
    obtain ⟨⟨_, _⟩, inRow, rfl⟩ := List.mem_map.mp member
    rw [traces.address_eq located inRow]
    exact List.mem_map_of_mem inRow

theorem decodes (located : task.disassembler.Located) (yields : task.Yields entry routine)
    {i : Decoding} (member : i ∈ routine.instructions) : task.Decodes i.address i := by
  obtain ⟨_, _, found, traces, rfl⟩ := yields
  obtain ⟨⟨_, _⟩, inRow, rfl⟩ := List.mem_map.mp member
  rw [traces.address_eq located inRow]
  exact traces.decodes _ _ inRow

end Yields

end Discovery.Task

end Landmark
