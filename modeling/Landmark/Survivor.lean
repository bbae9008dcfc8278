/-! # Cross-validation

Candidates found in two ways are reduced to what both agree on. One value is left
over only if all that remain are the same; how often it occurs does not matter.
-/

namespace Landmark

/-- What is left of the candidates. -/
inductive Survivor (α : Type) where
  | none
  | one (value : α)
  /-- More than one value is left. -/
  | ambiguous (count : Nat)
  deriving DecidableEq

namespace Survivor

/-- The one value among the candidates. -/
def ofCandidates {α : Type} [DecidableEq α] (candidates : List α) : Survivor α :=
  match candidates.eraseDups with
  | [] => .none
  | [value] => .one value
  | many => .ambiguous many.length

/-- The value, when just one is left. -/
def value? {α : Type} : Survivor α → Option α
  | one value => some value
  | _ => Option.none

def text {α : Type} : Survivor α → String
  | none => "no survivor"
  | one _ => "unique survivor"
  | ambiguous count => count.repr ++ " survivors"

/-- The values of `left` that are in `right`, each once, in the order of `left`. -/
def intersect {α : Type} [DecidableEq α] (left right : List α) : List α :=
  (left.filter (· ∈ right)).eraseDups

end Survivor

end Landmark
