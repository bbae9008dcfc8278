import Landmark.Proofs.LoadedModule.Opening

/-! # Segments at addresses

An address lies strictly in at most one segment of an opened module. The lookup only
tries the two segments around it, which is enough because what starts further off
ends before the address or begins behind it.
-/

namespace Landmark

open Log

theorem Segment.contains_iff {segment : Segment} {address : Nat} :
    segment.contains address = true ↔ segment.base < address ∧ address < segment.stop := by
  simp only [contains, stop, Bool.and_eq_true, decide_eq_true_eq]
  omega

namespace LoadedModule

variable {owner : LoadedModule} {address : Nat} {segment : Segment}

/-- An address lies strictly in some segment. -/
def Inside (owner : LoadedModule) (address : Nat) : Prop :=
  ∃ segment ∈ owner.segments, segment.base < address ∧ address < segment.stop

instance : Decidable (owner.Inside address) :=
  inferInstanceAs (Decidable (∃ segment ∈ owner.segments, _))

theorem of_segmentAt?_eq_some (found : owner.segmentAt? address = some segment) :
    segment ∈ owner.segments ∧ segment.base < address ∧ address < segment.stop := by
  simp only [segmentAt?] at found
  split at found
  next other above =>
    cases found
    obtain ⟨head, holds⟩ := Option.filter_eq_some_iff.mp above
    exact ⟨List.dropWhile_subset _ (List.mem_of_head? head), Segment.contains_iff.mp holds⟩
  next =>
    obtain ⟨last, holds⟩ := Option.filter_eq_some_iff.mp found
    exact ⟨List.takeWhile_subset _ (List.mem_of_getLast? last), Segment.contains_iff.mp holds⟩

theorem inside_of_contains (held : owner.contains address = true) : owner.Inside address := by
  obtain ⟨segment, found⟩ := Option.isSome_iff_exists.mp held
  exact ⟨segment, of_segmentAt?_eq_some found⟩

/-- Where the segments are apart, the one that an address lies in is found. -/
theorem segmentAt?_eq_some_iff
    (disjoint : owner.segments.Pairwise fun a b => a.stop ≤ b.base) :
    owner.segmentAt? address = some segment ↔
      segment ∈ owner.segments ∧ segment.base < address ∧ address < segment.stop := by
  refine ⟨of_segmentAt?_eq_some, ?_⟩
  rintro ⟨member, below, above⟩
  obtain ⟨front, behind, split⟩ := List.append_of_mem member
  rw [split] at disjoint
  obtain ⟨_, rest, apart⟩ := List.pairwise_append.mp disjoint
  have earlier : ∀ other ∈ front, decide (other.base < address) = true := by
    intro other place
    have ends := apart other place segment List.mem_cons_self
    have starts : other.base ≤ other.stop := Nat.le_add_right _ _
    exact decide_eq_true (by omega)
  have later : ∀ other ∈ behind, ¬other.base < address := by
    intro other place
    have ends := (List.pairwise_cons.mp rest).1 other place
    omega
  -- The segment is the last of those that start below the address.
  have front_eq : owner.segments.takeWhile (fun other => other.base < address) =
      front ++ [segment] := by
    rw [split, List.takeWhile_append_of_pos earlier, List.takeWhile_cons,
      if_pos (decide_eq_true below)]
    cases behind with
    | nil => rfl
    | cons next behind =>
      rw [List.takeWhile_cons_of_neg (by simpa using later next List.mem_cons_self)]
  have behind_eq : owner.segments.dropWhile (fun other => other.base < address) = behind := by
    rw [split, List.dropWhile_append_of_pos earlier, List.dropWhile_cons,
      if_pos (decide_eq_true below)]
    cases behind with
    | nil => rfl
    | cons next behind =>
      rw [List.dropWhile_cons_of_neg (by simpa using later next List.mem_cons_self)]
  have none_above : behind.head?.filter (fun other => other.contains address) = none := by
    rw [Option.filter_eq_none_iff]
    intro other head holds
    exact later other (List.mem_of_head? head) (Segment.contains_iff.mp holds).1
  simp only [segmentAt?, front_eq, behind_eq, none_above, List.getLast?_append,
    List.getLast?_singleton, Option.some_or, Option.filter_some,
    Segment.contains_iff.mpr ⟨below, above⟩, if_true]

theorem contains_iff_inside
    (disjoint : owner.segments.Pairwise fun a b => a.stop ≤ b.base) :
    owner.contains address = true ↔ owner.Inside address := by
  rw [contains, Option.isSome_iff_exists]
  exact exists_congr fun segment => segmentAt?_eq_some_iff disjoint

theorem function?_of_inside {name : String}
    (disjoint : owner.segments.Pairwise fun a b => a.stop ≤ b.base)
    (exported : owner.export? name = some address) (inside : owner.Inside address) :
    (owner.function? name).result = .ok (some address) := by
  have held := (contains_iff_inside disjoint).mpr inside
  simp only [function?, exported, Attempt.result_bind, Attempt.result_ofExcept, checkBounds, held,
    if_true, Attempt.result_pure]
  rfl

end LoadedModule

end Landmark
