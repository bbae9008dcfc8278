import Landmark.Proofs.Decoder
import Landmark.Proofs.Routine.Reachability

/-! # What a reconstructed function is

A function is what a traversal finds, provided that no two of its instructions share
bytes. Checking neighbours settles that for every pair, since a disassembler that
answers for the address it was asked about hands over instructions in ascending order.
-/

namespace Landmark

namespace Discovery.Task

variable {task : Task} {entry : Nat}

/-- No instruction that control reaches runs into another. -/
def Apart (task : Task) (entry : Nat) : Prop :=
  ∀ first second decoding, task.Reaches entry first → task.Reaches entry second →
    task.Decodes first decoding → first < second → decoding.stop ≤ second

/-- Two instructions that control reaches, of which the second starts inside the first. -/
def Collides (task : Task) (entry first second : Nat) : Prop :=
  task.Reaches entry first ∧ task.Reaches entry second ∧ first < second ∧
    ∃ decoding, task.Decodes first decoding ∧ second < decoding.stop

def routineOf (task : Task) (entry : Nat) (found : List (Nat × Decoding)) : Routine :=
  { entry
    segment := task.segment
    disassembler := task.disassembler
    instructions := found.map Prod.snd
    gaps := (Routine.rooms (found.map Prod.snd)).length }

def parse (task : Task) (entry : Nat) : Log.Attempt ParseFailure Routine :=
  Routine.parse task.segment task.disassembler entry task.limit

namespace Traces

variable {found : List (Nat × Decoding)}

theorem address_eq (located : task.disassembler.Located) (traces : task.Traces entry found)
    {address : Nat} {decoding : Decoding} (member : (address, decoding) ∈ found) :
    decoding.address = address := by
  obtain ⟨window, _, decoded⟩ := traces.decodes address decoding member
  exact located address window decoding decoded

theorem instructions_ascend (located : task.disassembler.Located)
    (traces : task.Traces entry found) :
    (found.map Prod.snd).Pairwise fun a b => a.address < b.address := by
  rw [List.pairwise_map]
  refine traces.ascending.imp_of_mem ?_
  rintro ⟨first, i⟩ ⟨second, j⟩ inFirst inSecond less
  rwa [traces.address_eq located inFirst, traces.address_eq located inSecond]

/-- What neighbours show of the instructions found holds of every two that control reaches. -/
theorem isChain_iff_apart (located : task.disassembler.Located)
    (traces : task.Traces entry found) :
    ((found.map Prod.snd).IsChain fun a b => a.stop ≤ b.address) ↔ task.Apart entry := by
  constructor
  · intro chain first second i reaches₁ reaches₂ decodes less
    have ascending := (traces.instructions_ascend located).imp fun {a b} => Nat.le_of_lt
    have apart := List.pairwise_map.mp (Extent.pairwise_of_isChain ascending chain)
    obtain ⟨⟨_, j⟩, member, rfl⟩ := List.mem_map.mp ((traces.addresses second).mpr reaches₂)
    have stop := Extent.related_of_lt traces.ascending apart
      (traces.mem_iff.mpr ⟨reaches₁, decodes⟩) member less
    rwa [traces.address_eq located member] at stop
  · intro apart
    refine List.Pairwise.isChain ?_
    rw [List.pairwise_map]
    refine traces.ascending.imp_of_mem ?_
    rintro ⟨first, i⟩ ⟨second, j⟩ inFirst inSecond less
    rw [traces.address_eq located inSecond]
    exact apart first second i (traces.mem_iff.mp inFirst).1 (traces.mem_iff.mp inSecond).1
      (traces.mem_iff.mp inFirst).2 less

end Traces

theorem result_parse (task : Task) (entry : Nat) :
    (task.parse entry).result =
      (task.discover entry).result.bind fun found =>
        match Extent.overlap? Decoding.address Decoding.stop (found.map Prod.snd) with
        | some (first, second) => .error (.overlap first.address second.address)
        | none => .ok (task.routineOf entry found) := by
  simp only [parse, Routine.parse, Log.Attempt.result_bind, ← Routine.overlap?_eq]
  cases (task.discover entry).result with
  | error failure => rfl
  | ok found =>
    change Log.Attempt.result _ = _
    dsimp only [Except.bind]
    cases Routine.overlap? (found.map Prod.snd) with
    | none => rfl
    | some pair => rfl

theorem parse_eq_ok_iff (located : task.disassembler.Located) {routine : Routine} :
    (task.parse entry).result = .ok routine ↔
      task.Traceable entry ∧ task.Apart entry ∧
        ∃ found, task.Traces entry found ∧ routine = task.routineOf entry found := by
  rw [result_parse]
  cases ended : (task.discover entry).result with
  | error failure =>
    simp only [Except.bind, reduceCtorEq, false_iff]
    rintro ⟨traceable, _⟩
    exact (explains_of_discover_eq_error ended).not_traceable traceable
  | ok found =>
    obtain ⟨traceable, traces⟩ := discover_eq_ok_iff.mp ended
    have apart := traces.isChain_iff_apart located
    rw [← Extent.overlap?_eq_none_iff] at apart
    dsimp only [Except.bind]
    split
    · next first second overlaps =>
      rw [overlaps] at apart
      simp [← apart]
    · next none =>
      constructor
      · intro same
        exact ⟨traceable, apart.mp none, found, traces, (Except.ok.inj same).symm⟩
      · rintro ⟨_, _, other, traces', rfl⟩
        rw [traces.unique traces']

theorem collides_of_parse_eq_error (located : task.disassembler.Located) {first second : Nat}
    (ended : (task.parse entry).result = .error (.overlap first second)) :
    task.Collides entry first second := by
  rw [result_parse] at ended
  cases traversed : (task.discover entry).result with
  | error failure =>
    rw [traversed] at ended
    obtain rfl := Except.error.inj ended
    exact (explains_of_discover_eq_error traversed).elim
  | ok found =>
    obtain ⟨_, traces⟩ := discover_eq_ok_iff.mp traversed
    rw [traversed] at ended
    dsimp only [Except.bind] at ended
    split at ended
    · next i j overlaps =>
      obtain ⟨rfl, rfl⟩ := ParseFailure.overlap.inj (Except.error.inj ended)
      obtain ⟨before, behind, row, _, inside⟩ := Extent.overlap?_eq_some_iff.mp overlaps
      have ascending := traces.instructions_ascend located
      rw [row, List.pairwise_append, List.pairwise_cons] at ascending
      have reached : ∀ k ∈ found.map Prod.snd,
          task.Reaches entry k.address ∧ task.Decodes k.address k := by
        intro k member
        obtain ⟨⟨address, _⟩, found, rfl⟩ := List.mem_map.mp member
        rw [traces.address_eq located found]
        exact traces.mem_iff.mp found
      have inI := reached i (by simp [row])
      exact ⟨inI.1, (reached j (by simp [row])).1, ascending.2.1.1 j List.mem_cons_self,
        i, inI.2, inside⟩
    · cases ended

/-- **The traversal is exact.** It succeeds just when everything that control reaches lies strictly
inside the segment, decodes and is within the limit; then it finds the one row of what control
reaches, whatever the order of the stack, and the same with any larger limit. Otherwise the reason
it gives is true. A function results when moreover no two of the instructions overlap, and two
that are named do. -/
theorem discover_exact (task : Task) (entry : Nat) :
    ((∃ found, (task.discover entry).result = .ok found) ↔ task.Traceable entry) ∧
    (∀ found, (task.discover entry).result = .ok found ↔
      task.Traceable entry ∧ task.Traces entry found) ∧
    (∀ found limit, (task.discover entry).result = .ok found → task.limit ≤ limit →
      ({ task with limit }.discover entry).result = .ok found) ∧
    (∀ failure, (task.discover entry).result = .error failure → task.Explains entry failure) ∧
    (task.disassembler.Located →
      (∀ routine, (task.parse entry).result = .ok routine ↔
        task.Traceable entry ∧ task.Apart entry ∧
          ∃ found, task.Traces entry found ∧ routine = task.routineOf entry found) ∧
      ∀ first second, (task.parse entry).result = .error (.overlap first second) →
        task.Collides entry first second) :=
  ⟨exists_discover_eq_ok_iff,
   fun _ => discover_eq_ok_iff,
   fun _ _ ended more => discover_withLimit ended more,
   fun _ ended => explains_of_discover_eq_error ended,
   fun located =>
    ⟨fun _ => parse_eq_ok_iff located, fun _ _ ended => collides_of_parse_eq_error located ended⟩⟩

end Discovery.Task

end Landmark
