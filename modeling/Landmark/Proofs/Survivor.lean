import Landmark.Survivor
import Mathlib.Data.Set.Card

/-! # Survivors of a set

Which candidate survives depends on the set of the candidates alone: nothing is left of
the empty set, the one member of a set of one, and of any larger set the number of its
members.
-/

namespace Landmark.Survivor

variable {α : Type}

/-- What is left of a set. -/
inductive Of (members : Set α) : Survivor α → Prop where
  | none : members = ∅ → Of members .none
  | one {value : α} : members = {value} → Of members (.one value)
  | ambiguous : 2 ≤ members.ncard → Of members (.ambiguous members.ncard)

theorem Of.unique {members : Set α} {left other : Survivor α} (first : Of members left)
    (second : Of members other) : left = other := by
  cases first with
  | none empty =>
    cases second with
    | none => rfl
    | one single => exact absurd (empty.symm.trans single).symm (Set.singleton_ne_empty _)
    | ambiguous many =>
      rw [empty, Set.ncard_empty] at many
      omega
  | one single =>
    cases second with
    | none empty => exact absurd (single.symm.trans empty) (Set.singleton_ne_empty _)
    | one other => rw [Set.singleton_injective (single.symm.trans other)]
    | ambiguous many =>
      rw [single, Set.ncard_singleton] at many
      omega
  | ambiguous many =>
    cases second with
    | none empty =>
      rw [empty, Set.ncard_empty] at many
      omega
    | one single =>
      rw [single, Set.ncard_singleton] at many
      omega
    | ambiguous => rfl

variable [DecidableEq α]

theorem nodup_eraseDups (row : List α) : row.eraseDups.Nodup := by
  cases row with
  | nil => simp
  | cons first rest =>
    rw [List.eraseDups_cons, List.nodup_cons, List.mem_eraseDups]
    refine ⟨by simp, ?_⟩
    exact nodup_eraseDups (rest.filter fun other => !other == first)
termination_by row.length
decreasing_by exact Nat.lt_succ_of_le (List.length_filter_le _ _)

theorem ncard_eq_length_eraseDups (row : List α) :
    { value | value ∈ row }.ncard = row.eraseDups.length := by
  have same : { value | value ∈ row } = (row.eraseDups.toFinset : Set α) := by
    ext value
    simp
  rw [same, Set.ncard_coe_finset, List.toFinset_card_of_nodup (nodup_eraseDups row)]

theorem of_ofCandidates (row : List α) : Of { value | value ∈ row } (ofCandidates row) := by
  have members : ∀ value, value ∈ row ↔ value ∈ row.eraseDups :=
    fun value => List.mem_eraseDups.symm
  unfold ofCandidates
  split
  next empty =>
    apply Of.none
    ext value
    simp [members, empty]
  next value single =>
    apply Of.one
    ext other
    simp [members, single]
  next empty single =>
    have many : 2 ≤ row.eraseDups.length := by
      cases distinct : row.eraseDups with
      | nil => exact absurd distinct empty
      | cons first rest =>
        cases rest with
        | nil => exact absurd distinct (single first)
        | cons second rest => simp
    rw [← ncard_eq_length_eraseDups] at many ⊢
    exact Of.ambiguous many

theorem ofCandidates_eq_iff {row : List α} {members : Set α}
    (same : ∀ value, value ∈ row ↔ value ∈ members) {left : Survivor α} :
    ofCandidates row = left ↔ Of members left := by
  have left_of : Of members (ofCandidates row) := by
    have whole : { value | value ∈ row } = members := Set.ext same
    exact whole ▸ of_ofCandidates row
  constructor
  · rintro rfl
    exact left_of
  · exact left_of.unique

end Landmark.Survivor
