import Landmark.Proofs.Extent
import Landmark.Proofs.Segment.Search
import Mathlib.Data.List.Perm.Basic

/-! # All that a search comes upon

The hits of a search are occurrences that share no byte, and each occurrence starts in
one of them. No other row is like that, so a row of hits can be spoken of without the
search that finds it.
-/

namespace Landmark.Segment

variable {segment : Segment} {needle haystack : Bytes}

/-- Occurrences in ascending order that share no byte, and in which all others start. -/
structure Hits (segment : Segment) (needle : Bytes) (row : List Nat) : Prop where
  occurs : ∀ hit ∈ row, segment.OccursAt needle hit
  apart : row.Pairwise fun a b => a + needle.length ≤ b
  covers : ∀ place, segment.OccursAt needle place →
    ∃ hit ∈ row, hit ≤ place ∧ place < hit + needle.length

theorem drop_behind_hit (filled : needle ≠ []) (byte : UInt8) (rest : Bytes) :
    rest.drop (needle.length - 1) = (byte :: rest).drop needle.length := by
  cases needle with
  | nil => exact absurd rfl filled
  | cons first needle => simp

theorem prefix_of_mem_occurrences {start hit : Nat} (filled : needle ≠ [])
    (member : hit ∈ occurrences needle haystack start) :
    start ≤ hit ∧ needle <+: haystack.drop (hit - start) := by
  fun_induction occurrences needle haystack start with
  | case1 start => cases member
  | case2 byte rest start first ih =>
    have positive := List.length_pos_iff.mpr filled
    cases List.mem_cons.mp member with
    | inl same =>
      rw [same, Nat.sub_self]
      exact ⟨Nat.le_refl _, List.isPrefixOf_iff_prefix.mp first⟩
    | inr later =>
      obtain ⟨above, here⟩ := ih later
      rw [drop_behind_hit filled byte rest, List.drop_drop] at here
      have place : needle.length + (hit - (start + max needle.length 1)) = hit - start := by omega
      rw [place] at here
      exact ⟨by omega, here⟩
  | case3 byte rest start miss ih =>
    obtain ⟨above, here⟩ := ih member
    have place : hit - start = hit - (start + 1) + 1 := by omega
    rw [place, List.drop_succ_cons]
    exact ⟨by omega, here⟩

theorem occurrences_apart {start : Nat} (filled : needle ≠ []) :
    (occurrences needle haystack start).Pairwise fun a b => a + needle.length ≤ b := by
  fun_induction occurrences needle haystack start with
  | case1 start => exact .nil
  | case2 byte rest start first ih =>
    have positive := List.length_pos_iff.mpr filled
    apply List.Pairwise.cons
    · intro hit later
      have above := (prefix_of_mem_occurrences filled later).1
      omega
    · exact ih
  | case3 byte rest start miss ih => exact ih

theorem exists_mem_occurrences {start place : Nat} (filled : needle ≠ [])
    (here : needle <+: haystack.drop place) :
    ∃ hit ∈ occurrences needle haystack start,
      hit ≤ start + place ∧ start + place < hit + needle.length := by
  fun_induction occurrences needle haystack start generalizing place with
  | case1 start =>
    rw [List.drop_nil] at here
    exact absurd (List.prefix_nil.mp here) filled
  | case2 byte rest start first ih =>
    have positive := List.length_pos_iff.mpr filled
    by_cases within : place < needle.length
    · exact ⟨start, List.mem_cons_self, by omega, by omega⟩
    · -- What starts behind the first hit is found behind it.
      have further : needle <+:
          (rest.drop (needle.length - 1)).drop (place - needle.length) := by
        rw [drop_behind_hit filled byte rest, List.drop_drop]
        rwa [Nat.add_sub_cancel' (Nat.not_lt.mp within)]
      obtain ⟨hit, member, below, above⟩ := ih further
      exact ⟨hit, List.mem_cons_of_mem _ member, by omega, by omega⟩
  | case3 byte rest start miss ih =>
    cases place with
    | zero => exact absurd (List.isPrefixOf_iff_prefix.mpr here) miss
    | succ place =>
      obtain ⟨hit, member, below, above⟩ := ih here
      exact ⟨hit, member, by omega, by omega⟩

theorem hits_find (segment : Segment) (needle : Bytes) :
    segment.Hits needle (segment.find needle) := by
  by_cases empty : needle = []
  · subst empty
    refine ⟨?_, List.Pairwise.nil, ?_⟩
    · intro hit member
      cases member
    · intro place occurs
      exact absurd rfl occurs.1
  have found : segment.find needle =
      (occurrences needle segment.definedData 0).map (segment.base + ·) := by
    rw [find, if_neg (by simpa using empty)]
  rw [found]
  refine ⟨?_, ?_, ?_⟩
  · intro hit member
    obtain ⟨place, inRow, rfl⟩ := List.mem_map.mp member
    have here := (prefix_of_mem_occurrences empty inRow).2
    exact ⟨empty, Nat.le_add_right _ _, by rwa [Nat.add_sub_cancel_left]⟩
  · rw [List.pairwise_map]
    refine (occurrences_apart empty).imp ?_
    intro a b apart
    omega
  · rintro place ⟨_, above, here⟩
    obtain ⟨hit, member, below, behind⟩ :=
      @exists_mem_occurrences _ _ 0 (place - segment.base) empty here
    exact ⟨segment.base + hit, List.mem_map_of_mem member, by omega, by omega⟩

namespace Hits

variable {row other : List Nat}

theorem ascending (hits : segment.Hits needle row) : row.Pairwise fun a b => a < b := by
  refine hits.apart.imp_of_mem ?_
  intro a b inRow _ apart
  have positive := List.length_pos_iff.mpr (hits.occurs a inRow).1
  omega

/-- Below an occurrence both rows are the same, so it starts in the same hit of both. -/
theorem mem_iff (hits : segment.Hits needle row) (others : segment.Hits needle other)
    (place : Nat) : place ∈ row ↔ place ∈ other := by
  induction place using Nat.strong_induction_on with
  | _ place ih =>
    have carried : ∀ {a b : List Nat}, segment.Hits needle a → segment.Hits needle b →
        (∀ below < place, below ∈ b → below ∈ a) → place ∈ a → place ∈ b := by
      intro a b inA inB same member
      obtain ⟨hit, found, below, above⟩ := inB.covers place (inA.occurs place member)
      rcases Nat.eq_or_lt_of_le below with rfl | less
      · exact found
      · have apart := @Extent.related_of_lt _ id _ _ inA.ascending inA.apart _ _
          (same hit less found) member less
        omega
    constructor
    · exact carried hits others fun below less => (ih below less).mpr
    · exact carried others hits fun below less => (ih below less).mp

theorem unique (hits : segment.Hits needle row) (others : segment.Hits needle other) :
    row = other := by
  have distinct : ∀ {a : List Nat}, segment.Hits needle a → a.Nodup := fun inA =>
    inA.ascending.imp Nat.ne_of_lt
  have perm : row.Perm other :=
    (List.perm_ext_iff_of_nodup (distinct hits) (distinct others)).mpr (hits.mem_iff others)
  exact perm.eq_of_pairwise (fun a b _ _ less more => absurd less (Nat.lt_asymm more))
    hits.ascending others.ascending

end Hits

theorem find_eq_iff {row : List Nat} : segment.find needle = row ↔ segment.Hits needle row := by
  constructor
  · rintro rfl
    exact hits_find segment needle
  · exact fun hits => (hits_find segment needle).unique hits

end Landmark.Segment
