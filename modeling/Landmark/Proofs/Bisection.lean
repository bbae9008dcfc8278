import Landmark.Proofs.Checked.Basic

/-! # Finding a place by halving

Where all that is as asked for stands in front of all that is not, the place between the two is
found by looking in the middle and going on in one half. It says how many are as asked for, and
what stands in front and behind is what a look at each of them would pick out.
-/

namespace Landmark

variable {α : Type} {holds : α → Bool} {row : List α}

/-- What is as asked for stands in front of what is not. -/
def Falls (holds : α → Bool) (row : List α) : Prop := row.Pairwise fun a b => holds b → holds a

theorem Falls.takeWhile_eq (falls : Falls holds row) : row.takeWhile holds = row.filter holds := by
  induction row with
  | nil => rfl
  | cons first rest ih =>
    obtain ⟨above, falls⟩ := List.pairwise_cons.mp falls
    cases here : holds first with
    | true => rw [List.takeWhile_cons_of_pos here, List.filter_cons_of_pos here, ih falls]
    | false =>
      have none : ∀ a ∈ rest, ¬holds a := fun a member held => by simp [above a member held] at here
      rw [List.takeWhile_cons_of_neg (by simp [here]), List.filter_cons_of_neg (by simp [here]),
        List.filter_eq_nil_iff.mpr none]

theorem Falls.dropWhile_eq (falls : Falls holds row) :
    row.dropWhile holds = row.filter fun a => !holds a := by
  induction row with
  | nil => rfl
  | cons first rest ih =>
    obtain ⟨above, falls⟩ := List.pairwise_cons.mp falls
    cases here : holds first with
    | true =>
      rw [List.dropWhile_cons_of_pos here, List.filter_cons_of_neg (by simp [here]), ih falls]
    | false =>
      have all : ∀ a ∈ rest, !holds a := fun a member => by
        cases held : holds a with
        | true => simp [above a member held] at here
        | false => rfl
      rw [List.dropWhile_cons_of_neg (by simp [here]), List.filter_cons_of_pos (by simp [here]),
        List.filter_eq_self.mpr all]

theorem Falls.split (falls : Falls holds row) :
    row.filter holds ++ row.filter (fun a => !holds a) = row := by
  rw [← falls.takeWhile_eq, ← falls.dropWhile_eq, List.takeWhile_append_dropWhile]

theorem Falls.holds_iff (falls : Falls holds row) {place : Nat} {a : α}
    (there : row[place]? = some a) : holds a ↔ place < row.countP holds := by
  rw [← falls.split] at there
  rw [List.countP_eq_length_filter]
  by_cases front : place < (row.filter holds).length
  · rw [List.getElem?_append_left front] at there
    have held := (List.mem_filter.mp (List.mem_of_getElem? there)).2
    simp only [held, front]
  · rw [List.getElem?_append_right (Nat.not_lt.mp front)] at there
    have fails := (List.mem_filter.mp (List.mem_of_getElem? there)).2
    simpa [front] using fails

theorem Falls.partitionPoint_eq (falls : Falls holds row) :
    Checked.partitionPoint holds row = row.countP holds := by
  have front : (row.takeWhile holds).length = Checked.partitionPoint holds row := by
    rw [List.takeWhile_eq_take_findIdx_not, List.length_take]
    exact Nat.min_eq_left (Checked.partitionPoint_le holds row)
  rw [← front, falls.takeWhile_eq, List.countP_eq_length_filter]

/-- Halves the places from `low` to `high` until one is left. -/
def bisect (holds : α → Bool) (row : List α) (low high : Nat) : Nat :=
  if low < high then
    let middle := (low + high) / 2
    if row[middle]?.any holds then bisect holds row (middle + 1) high
    else bisect holds row low middle
  else low
termination_by high - low

theorem bisect_eq (falls : Falls holds row) {low high : Nat} (above : low ≤ row.countP holds)
    (below : row.countP holds ≤ high) (inside : high ≤ row.length) :
    bisect holds row low high = row.countP holds := by
  fun_induction bisect holds row low high with
  | case1 low high less middle held ih =>
    have there : middle < row.length := by omega
    rw [List.getElem?_eq_getElem there, Option.any_some] at held
    have front := (falls.holds_iff (List.getElem?_eq_getElem there)).mp held
    exact ih front below inside
  | case2 low high less middle fails ih =>
    have there : middle < row.length := by omega
    rw [List.getElem?_eq_getElem there, Option.any_some] at fails
    have behind := fun front => fails ((falls.holds_iff (List.getElem?_eq_getElem there)).mpr front)
    exact ih above (Nat.not_lt.mp behind) (by omega)
  | case3 low high done => omega

/-- A search that says how many of a row are as asked for, wherever these stand in front. -/
def Counts (search : (α → Bool) → List α → Nat) : Prop :=
  ∀ {holds row}, Falls holds row → search holds row = row.countP holds

theorem counts_bisect : Counts fun (holds : α → Bool) row => bisect holds row 0 row.length :=
  fun falls => bisect_eq falls (Nat.zero_le _) List.countP_le_length (Nat.le_refl _)

end Landmark
