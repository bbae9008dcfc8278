import Landmark.Proofs.Survivor

/-! # Selection by membership

Candidates are reduced one after the other: each is kept behind those that are kept already, unless
it is one of them. What is kept of a row holds the values of the row, each once and in the order in
which they occur first. The survivor depends on nothing but the set of the candidates, and what two
rows have in common on the second row only as a set.
-/

namespace Landmark.Survivor

variable {α : Type}

theorem of_one_iff {members : Set α} {value : α} : Of members (.one value) ↔ members = {value} :=
  ⟨fun | .one single => single, .one⟩

theorem of_none_iff {members : Set α} : Of members .none ↔ members = ∅ :=
  ⟨fun | .none empty => empty, .none⟩

theorem of_ambiguous_iff {members : Set α} {count : Nat} :
    Of members (.ambiguous count) ↔ 2 ≤ count ∧ members.ncard = count := by
  constructor
  · rintro ⟨⟩
    next many => exact ⟨many, rfl⟩
  · rintro ⟨many, rfl⟩
    exact .ambiguous many

variable [DecidableEq α]

/-- Keeps a candidate behind the others, unless it is one of them. -/
def keep (kept : List α) (candidate : α) : List α :=
  if candidate ∈ kept then kept else kept ++ [candidate]

/-- Keeps a candidate if it is wanted. -/
def keepWanted (wanted : α → Bool) (kept : List α) (candidate : α) : List α :=
  if wanted candidate then keep kept candidate else kept

/-- What is kept of a row: its wanted values, in the order in which they occur first. -/
structure Keeps (wanted : α → Bool) (row kept : List α) : Prop where
  members : ∀ value, value ∈ kept ↔ value ∈ row ∧ wanted value
  order : kept.Pairwise fun former latter => row.idxOf former < row.idxOf latter

namespace Keeps

variable {wanted : α → Bool} {row kept : List α}

theorem nodup (keeps : Keeps wanted row kept) : kept.Nodup := by
  apply keeps.order.imp
  rintro former _ earlier rfl
  exact Nat.lt_irrefl _ earlier

/-- One more candidate at the end of the row. -/
theorem step (keeps : Keeps wanted row kept) (candidate : α) :
    Keeps wanted (row ++ [candidate]) (keepWanted wanted kept candidate) := by
  have there : ∀ value ∈ kept, (row ++ [candidate]).idxOf value = row.idxOf value :=
    fun value member => List.idxOf_append_of_mem ((keeps.members value).mp member).1
  have order : kept.Pairwise fun former latter =>
      (row ++ [candidate]).idxOf former < (row ++ [candidate]).idxOf latter := by
    apply keeps.order.imp_of_mem
    intro former latter first second earlier
    rwa [there former first, there latter second]
  unfold keepWanted keep
  by_cases asked : wanted candidate
  case neg =>
    rw [if_neg asked]
    refine ⟨fun value => ?_, order⟩
    simp only [keeps.members, List.mem_append, List.mem_singleton]
    grind
  rw [if_pos asked]
  by_cases known : candidate ∈ kept
  case pos =>
    have listed := ((keeps.members candidate).mp known).1
    rw [if_pos known]
    refine ⟨fun value => ?_, order⟩
    simp only [keeps.members, List.mem_append, List.mem_singleton]
    grind
  have fresh : candidate ∉ row :=
    fun listed => known ((keeps.members candidate).mpr ⟨listed, asked⟩)
  rw [if_neg known]
  constructor
  case members =>
    intro value
    simp only [keeps.members, List.mem_append, List.mem_singleton]
    grind
  case order =>
    -- A candidate that was in the row before is kept or not wanted, so this one is new.
    refine List.pairwise_append.mpr ⟨order, List.pairwise_singleton _ _, ?_⟩
    intro former member latter same
    obtain rfl := List.mem_singleton.mp same
    rw [there former member, List.idxOf_append_of_notMem fresh, List.idxOf_cons_self]
    exact List.idxOf_lt_length_of_mem ((keeps.members former).mp member).1

theorem run (wanted : α → Bool) (row : List α) :
    Keeps wanted row (row.foldl (keepWanted wanted) []) := by
  induction row using List.reverseRecOn with
  | nil => exact ⟨by simp, List.Pairwise.nil⟩
  | append_singleton front last ih =>
    rw [List.foldl_append]
    exact ih.step last

/-- There is one way only to list the wanted values of a row. -/
theorem unique {other : List α} (keeps : Keeps wanted row kept) (also : Keeps wanted row other) :
    kept = other := by
  have perm : kept.Perm other := (List.perm_ext_iff_of_nodup keeps.nodup also.nodup).mpr
    fun value => (keeps.members value).trans (also.members value).symm
  apply perm.eq_of_pairwise _ keeps.order also.order
  intro former latter _ _ earlier later
  exact absurd later (Nat.lt_asymm earlier)

end Keeps

/-! ## The two reductions -/

theorem foldl_keep_eq_eraseDups (row : List α) : row.foldl keep [] = row.eraseDups := by
  induction row using List.reverseRecOn with
  | nil => rfl
  | append_singleton front last ih =>
    have known : ∀ value, value ∈ front.eraseDups ↔ value ∈ front := fun _ => List.mem_eraseDups
    rw [List.foldl_append, ih, List.eraseDups_append, List.foldl_cons, List.foldl_nil, keep]
    simp only [known, List.removeAll, List.filter_cons, List.filter_nil, List.elem_eq_mem]
    by_cases seen : last ∈ front
    · simp [seen]
    · simp [seen, List.eraseDups_cons]

/-- Of a row without repetitions all that is not there yet is kept, in its order. -/
theorem foldl_keep_of_nodup {row : List α} (distinct : row.Nodup) (kept : List α) :
    row.foldl keep kept = kept ++ row.filter (· ∉ kept) := by
  induction row generalizing kept with
  | nil => simp
  | cons first rest ih =>
    obtain ⟨fresh, distinct⟩ := List.nodup_cons.mp distinct
    rw [List.foldl_cons, ih distinct, keep]
    by_cases seen : first ∈ kept
    · rw [if_pos seen, List.filter_cons_of_neg (by simpa using seen)]
    · have same : rest.filter (· ∉ kept ++ [first]) = rest.filter (· ∉ kept) := by
        apply List.filter_congr
        intro value member
        have other : value ≠ first := fun same => fresh (same ▸ member)
        simp [other]
      rw [if_neg seen, same, List.filter_cons_of_pos (by simpa using seen), List.append_assoc]
      rfl

/-- What two rows have in common is what is kept of the first by looking into the second. -/
theorem intersect_eq_foldl (left right : List α) :
    intersect left right = left.foldl (keepWanted (· ∈ right)) [] := by
  rw [intersect, ← foldl_keep_eq_eraseDups, List.foldl_filter]
  rfl

theorem keeps_intersect (left right : List α) :
    Keeps (· ∈ right) left (intersect left right) := by
  rw [intersect_eq_foldl]
  exact Keeps.run _ _

theorem ofCandidates_congr {row other : List α} (same : ∀ value, value ∈ other ↔ value ∈ row) :
    ofCandidates other = ofCandidates row :=
  (@ofCandidates_eq_iff _ _ other { value | value ∈ row } same _).mpr (of_ofCandidates row)

/-- The survivor of a row is decided by the set of its candidates. -/
structure DecidedBySet (row : List α) : Prop where
  one : ∀ value, ofCandidates row = .one value ↔ row ≠ [] ∧ ∀ candidate ∈ row, candidate = value
  none : ofCandidates row = .none ↔ row = []
  ambiguous : ∀ count, ofCandidates row = .ambiguous count ↔
    2 ≤ count ∧ { value | value ∈ row }.ncard = count
  /-- Neither order nor repetitions count. -/
  alike : ∀ other, (∀ value, value ∈ other ↔ value ∈ row) → ofCandidates other = ofCandidates row

/-- What two rows have in common. -/
structure Common (left right both : List α) : Prop where
  distinct : both.Nodup
  members : ∀ value, value ∈ both ↔ value ∈ left ∧ value ∈ right
  order : both.Pairwise fun former latter => left.idxOf former < left.idxOf latter

theorem decidedBySet (row : List α) : DecidedBySet row := by
  have decided (left : Survivor α) := @ofCandidates_eq_iff _ _ row { value | value ∈ row }
    (fun _ => .rfl) left
  constructor
  case one =>
    intro value
    rw [decided, of_one_iff, Set.eq_singleton_iff_nonempty_unique_mem]
    exact and_congr_left'
      ⟨fun ⟨_, member⟩ => List.ne_nil_of_mem member, List.exists_mem_of_ne_nil _⟩
  case none =>
    rw [decided, of_none_iff, List.eq_nil_iff_forall_not_mem]
    exact Set.eq_empty_iff_forall_notMem
  case ambiguous =>
    intro count
    rw [decided, of_ambiguous_iff]
  case alike =>
    intro other same
    exact ofCandidates_congr same

theorem common_intersect (left right : List α) : Common left right (intersect left right) := by
  have keeps := keeps_intersect left right
  constructor
  case distinct => exact keeps.nodup
  case members => simpa using keeps.members
  case order => exact keeps.order

theorem intersect_congr {left right other : List α}
    (same : ∀ value, value ∈ other ↔ value ∈ right) :
    intersect left other = intersect left right := by
  have asked : (fun value => decide (value ∈ other)) = fun value => decide (value ∈ right) := by
    funext value
    rw [decide_eq_decide, same]
  exact (keeps_intersect left other).unique (asked ▸ keeps_intersect left right)

/-- Nothing more is lost when it is done again. -/
theorem intersect_intersect (left right : List α) :
    intersect (intersect left right) right = intersect left right := by
  have all : (intersect left right).filter (· ∈ right) = intersect left right := by
    apply List.filter_eq_self.mpr
    intro value member
    exact ((keeps_intersect left right).members value).mp member |>.2
  have distinct := (keeps_intersect left right).nodup
  rw [intersect, all, ← foldl_keep_eq_eraseDups, foldl_keep_of_nodup distinct]
  simp

/-- **Selection is by membership.** -/
theorem selects_bySet (row left right : List α) :
    DecidedBySet row ∧ Common left right (intersect left right) ∧
    (∀ other, (∀ value, value ∈ other ↔ value ∈ right) →
      intersect left other = intersect left right) ∧
    intersect (intersect left right) right = intersect left right :=
  ⟨decidedBySet row, common_intersect left right, fun _ => intersect_congr,
    intersect_intersect left right⟩

end Landmark.Survivor
