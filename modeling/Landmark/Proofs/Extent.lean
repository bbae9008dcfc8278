import Landmark.LoadedModule
import Mathlib.Data.List.Chain

/-! # Rows of extents

Segments and instructions are both extents, from a start up to a stop. A row of them is
checked for overlap between neighbours only. Where the starts ascend that is enough:
what ends before its neighbour begins ends before everything behind.
-/

namespace Landmark

namespace Extent

variable {α : Type} (start stop : α → Nat)

/-- The first two neighbours of which the second starts inside the first. -/
def overlap? : List α → Option (α × α)
  | first :: second :: rest =>
    if start second < stop first then some (first, second) else overlap? (second :: rest)
  | _ => none

/-- A row without two neighbours. -/
theorem nil_or_singleton {row : List α}
    (short : ∀ first second rest, row = first :: second :: rest → False) :
    row = [] ∨ ∃ last, row = [last] := by
  cases row with
  | nil => exact .inl rfl
  | cons first rest =>
    cases rest with
    | nil => exact .inr ⟨first, rfl⟩
    | cons second rest => exact (short first second rest rfl).elim

variable {start stop}

theorem overlap?_eq_none_iff {row : List α} :
    overlap? start stop row = none ↔ row.IsChain fun a b => stop a ≤ start b := by
  fun_induction overlap? start stop row with
  | case1 first second rest overlaps =>
    simp only [reduceCtorEq, List.isChain_cons_cons, false_iff, not_and]
    omega
  | case2 first second rest apart ih =>
    simp only [List.isChain_cons_cons, ih, Nat.not_lt.mp apart, true_and]
  | case3 row short =>
    rcases nil_or_singleton short with rfl | ⟨last, rfl⟩
    · simp
    · simp

theorem overlap?_append {before rest : List α} {a : α}
    (chain : (before ++ [a]).IsChain fun a b => stop a ≤ start b) :
    overlap? start stop (before ++ a :: rest) = overlap? start stop (a :: rest) := by
  induction before with
  | nil => rfl
  | cons first before ih =>
    have passed := ih (List.IsChain.tail chain)
    cases before with
    | nil =>
      have apart : stop first ≤ start a := by simpa using chain
      simp only [List.cons_append, List.nil_append, overlap?, Nat.not_lt.mpr apart, if_false]
    | cons second before =>
      have apart : stop first ≤ start second := (List.isChain_cons_cons.mp chain).1
      simpa only [List.cons_append, overlap?, Nat.not_lt.mpr apart, if_false] using passed

/-- The pair that is found stands side by side, and no neighbours in front of it overlap. -/
theorem overlap?_eq_some_iff {row : List α} {a b : α} :
    overlap? start stop row = some (a, b) ↔
      ∃ before behind, row = before ++ a :: b :: behind ∧
        (before ++ [a]).IsChain (fun a b => stop a ≤ start b) ∧ start b < stop a := by
  constructor
  · intro found
    fun_induction overlap? start stop row with
    | case1 first second rest overlaps =>
      obtain ⟨rfl, rfl⟩ := Prod.mk.inj (Option.some.inj found)
      exact ⟨[], rest, rfl, List.isChain_singleton _, overlaps⟩
    | case2 first second rest apart ih =>
      obtain ⟨before, behind, split, chain, overlaps⟩ := ih found
      refine ⟨first :: before, behind, by rw [split]; rfl, ?_, overlaps⟩
      cases before with
      | nil =>
        obtain ⟨rfl, _⟩ : second = a ∧ rest = b :: behind := by simpa using split
        simpa using Nat.not_lt.mp apart
      | cons head before =>
        obtain ⟨rfl, _⟩ : second = head ∧ rest = before ++ a :: b :: behind := by simpa using split
        exact List.isChain_cons_cons.mpr ⟨Nat.not_lt.mp apart, chain⟩
    | case3 row short => cases found
  · rintro ⟨before, behind, rfl, chain, overlaps⟩
    rw [overlap?_append chain, overlap?, if_pos overlaps]

theorem order_trans (a b c : α) (first : decide (start a ≤ start b) = true)
    (second : decide (start b ≤ start c) = true) : decide (start a ≤ start c) = true := by
  simp only [decide_eq_true_eq] at first second ⊢
  exact first.trans second

theorem order_total (a b : α) :
    (decide (start a ≤ start b) || decide (start b ≤ start a)) = true := by
  simp only [Bool.or_eq_true, decide_eq_true_eq]
  exact Nat.le_total _ _

theorem ascending_mergeSort (row : List α) :
    (row.mergeSort fun a b => start a ≤ start b).Pairwise fun a b => start a ≤ start b := by
  have sorted : (row.mergeSort fun a b => start a ≤ start b).Pairwise
      fun a b => decide (start a ≤ start b) = true :=
    List.pairwise_mergeSort order_trans order_total row
  simpa only [decide_eq_true_eq] using sorted

/-- Neighbours suffice where the starts ascend. -/
theorem pairwise_of_isChain {row : List α} (ascending : row.Pairwise fun a b => start a ≤ start b)
    (chain : row.IsChain fun a b => stop a ≤ start b) :
    row.Pairwise fun a b => stop a ≤ start b := by
  induction row with
  | nil => exact .nil
  | cons first rest ih =>
    obtain ⟨above, ascending⟩ := List.pairwise_cons.mp ascending
    refine List.pairwise_cons.mpr ⟨?_, ih ascending (List.IsChain.tail chain)⟩
    intro other member
    cases rest with
    | nil => cases member
    | cons second rest =>
      have apart : stop first ≤ start second := (List.isChain_cons_cons.mp chain).1
      rcases List.mem_cons.mp member with rfl | later
      · exact apart
      · exact apart.trans ((List.pairwise_cons.mp ascending).1 other later)

/-- What holds along a strictly ascending row holds of two of its members by their starts alone. -/
theorem related_of_lt {row : List α} {related : α → α → Prop}
    (ascending : row.Pairwise fun a b => start a < start b) (all : row.Pairwise related)
    {a b : α} (inA : a ∈ row) (inB : b ∈ row) (less : start a < start b) : related a b := by
  induction row with
  | nil => cases inA
  | cons first rest ih =>
    obtain ⟨above, ascending⟩ := List.pairwise_cons.mp ascending
    obtain ⟨head, all⟩ := List.pairwise_cons.mp all
    rcases List.mem_cons.mp inA with rfl | laterA
    · rcases List.mem_cons.mp inB with rfl | laterB
      · exact absurd less (lt_irrefl _)
      · exact head b laterB
    · rcases List.mem_cons.mp inB with rfl | laterB
      · exact absurd less (Nat.lt_asymm (above a laterA))
      · exact ih ascending all laterA laterB

end Extent

theorem Routine.overlap?_eq (instructions : List Decoding) :
    Routine.overlap? instructions =
      Extent.overlap? Decoding.address Decoding.stop instructions := by
  fun_induction Routine.overlap? instructions <;> simp_all [Extent.overlap?]

theorem LoadedModule.overlap?_eq (segments : List Segment) :
    LoadedModule.overlap? segments = Extent.overlap? Segment.base Segment.stop segments := by
  fun_induction LoadedModule.overlap? segments <;> simp_all [Extent.overlap?]

end Landmark
