import Landmark.Proofs.Checked.Segment
import Landmark.Proofs.Segment.Entry

/-! # Walking back to entries, checked

The walk takes one alignment off at a time and ends below its floor, or where there is
nothing left to take it off. With an alignment that is a power of two it ends within as
many steps as alignments fit into the window, and no site that is asked for is refused.
-/

namespace Landmark

open Log

namespace Checked

def alignDown (convention : EntryConvention) (address : Nat) : Checked Nat := do
  let mask ← sub convention.alignment 1
  return address - (address &&& mask)

def mayStart (segment : Segment) (convention : EntryConvention) (address : Nat) :
    Checked Bool :=
  if address = segment.base then return true
  else do
    return (← byteBefore? segment address).map UInt8.toNat == some convention.padding

/-- The entries from a candidate down. Each round costs one of `fuel`. -/
def entriesFrom (segment : Segment) (convention : EntryConvention) (floor : Nat) :
    (fuel candidate : Nat) → Checked (List Nat)
  | 0, _ => .error .endless
  | fuel + 1, candidate =>
    if floor ≤ candidate then do
      let starts ← mayStart segment convention candidate
      let further ←
        if candidate < convention.alignment then pure []
        else do entriesFrom segment convention floor fuel (← sub candidate convention.alignment)
      return if starts then candidate :: further else further
    else return []

def checkBounds (segment : Segment) (address : Nat) : Guarded Fatal Unit := do
  if ← contains segment address then return ()
  else throw (.addressOutOfBounds ("segment " ++ segment.name) address)

def entriesNear (segment : Segment) (convention : EntryConvention) (window address : Nat) :
    Guarded Fatal (List Nat) := do
  checkBounds segment address
  ExceptT.mk (pure convention.validate)
  if (← ExceptT.lift (rem window convention.alignment)) ≠ 0 then
    throw (.invalidConfig (.window window convention.alignment))
  let top ← ExceptT.lift (alignDown convention address)
  let floor := max (top - window) segment.base
  ExceptT.lift
    (entriesFrom segment convention floor (window / convention.alignment + 2) top)

def entriesOf (segment : Segment) (convention : EntryConvention) (window : Nat)
    (sites : List Nat) : Guarded Fatal (List Nat) := do
  let found ← sites.mapM fun site => do
    if ← ExceptT.lift (contains segment site) then entriesNear segment convention window site
    else return []
  return found.flatten.eraseDups

def entriesReferencing (segment : Segment) (convention : EntryConvention) (window target : Nat) :
    Guarded Fatal (List Nat) := do
  entriesOf segment convention window (← ExceptT.lift (references segment target))

end Checked

theorem EntryConvention.boundaries_cons {convention : EntryConvention}
    (positive : 0 < convention.alignment) {top floor : Nat} (order : floor ≤ top) :
    convention.boundaries top floor =
      top :: if top < convention.alignment then []
        else convention.boundaries (top - convention.alignment) floor := by
  have shifted : ∀ step, top - (step + 1) * convention.alignment =
      top - convention.alignment - step * convention.alignment := by
    intro step
    rw [Nat.succ_mul, Nat.sub_sub, Nat.add_comm]
  rw [boundaries, if_pos order, List.range_succ_eq_map, List.map_cons, Nat.zero_mul, Nat.sub_zero,
    List.map_map]
  congr 1
  by_cases room : floor + convention.alignment ≤ top
  · have last : ¬top < convention.alignment := by omega
    have rounds : (top - floor) / convention.alignment =
        (top - convention.alignment - floor) / convention.alignment + 1 := by
      rw [← Nat.add_div_right _ positive]
      congr 1
      omega
    rw [if_neg last, boundaries, if_pos (by omega), rounds]
    exact List.map_congr_left fun step _ => shifted step
  · have none : (top - floor) / convention.alignment = 0 := Nat.div_eq_of_lt (by omega)
    rw [none, List.range_zero, List.map_nil]
    split
    · rfl
    · rw [boundaries, if_neg (by omega)]

namespace Checked

variable {segment : Segment} {convention : EntryConvention}

theorem checkBounds_of_contains {address : Nat} (inside : segment.contains address = true) :
    checkBounds segment address = pure () := by
  rw [checkBounds, contains_eq, inside]
  rfl

theorem flatten_map_if {α β : Type} {chosen : α → Bool} {f : α → List β} (row : List α) :
    (row.map fun a => if chosen a then f a else []).flatten =
      ((row.filter chosen).map f).flatten := by
  induction row with
  | nil => rfl
  | cons first rest ih =>
    rw [List.map_cons, List.flatten_cons, ih, List.filter_cons]
    split
    next => rw [List.map_cons, List.flatten_cons]
    next => rw [List.nil_append]

theorem alignDown_eq (positive : 0 < convention.alignment) (address : Nat) :
    alignDown convention address = .ok (convention.alignDown address) := by
  rw [alignDown, sub_eq positive]
  rfl

variable (room : segment.stop < word)
include room

theorem mayStart_eq (address : Nat) :
    mayStart segment convention address = .ok (segment.mayStart convention address) := by
  unfold mayStart Segment.mayStart
  split
  next first =>
    rw [beq_iff_eq.mpr first, Bool.true_or]
    rfl
  next later =>
    rw [beq_eq_false_iff_ne.mpr later, Bool.false_or, byteBefore?_eq room]
    rfl

theorem entriesFrom_eq (positive : 0 < convention.alignment) {floor rounds candidate : Nat}
    (enough : candidate < floor + rounds * convention.alignment) :
    entriesFrom segment convention floor (rounds + 1) candidate =
      .ok ((convention.boundaries candidate floor).filter (segment.mayStart convention)) := by
  induction rounds generalizing candidate with
  | zero =>
    have past : ¬floor ≤ candidate := by omega
    rw [entriesFrom, if_neg past, EntryConvention.boundaries, if_neg past]
    rfl
  | succ rounds ih =>
    rw [Nat.succ_mul] at enough
    unfold entriesFrom
    split
    next order =>
      rw [mayStart_eq room, ok_bind, EntryConvention.boundaries_cons positive order,
        List.filter_cons]
      -- Below the first alignment there is nothing to take off, and no boundary is left either.
      by_cases last : candidate < convention.alignment
      · simp only [last, if_true]
        rfl
      · have further := @ih (candidate - convention.alignment) (by omega)
        simp only [last, if_false, sub_eq (Nat.not_lt.mp last), ok_bind, further]
        rfl
    next order =>
      rw [EntryConvention.boundaries, if_neg order]
      rfl

variable (power : EntryConvention.isPowerOfTwo convention.alignment = true)
include power

theorem entriesNear_eq {window site : Nat} (whole : window % convention.alignment = 0)
    (inside : segment.contains site = true) :
    entriesNear segment convention window site = pure (segment.walked convention window site) := by
  have positive := EntryConvention.positive_of_isPowerOfTwo power
  have conventional := EntryConvention.validate_of_isPowerOfTwo power
  have divided : rem window convention.alignment = .ok 0 := by
    rw [rem_eq (Nat.ne_of_gt positive), whole]
  have rounds := Nat.lt_mul_div_succ window positive
  rw [Nat.mul_comm] at rounds
  have entries := @entriesFrom_eq _ convention room positive
    (max (convention.alignDown site - window) segment.base) (window / convention.alignment + 1)
    (convention.alignDown site) (by omega)
  rw [entriesNear, checkBounds_of_contains inside, conventional, divided, alignDown_eq positive]
  change ExceptT.lift (entriesFrom segment convention _ _ _) = _
  rw [entries]
  rfl

theorem entriesOf_eq {window : Nat} (whole : window % convention.alignment = 0)
    (sites : List Nat) : ∃ entries, entriesOf segment convention window sites = pure entries ∧
      segment.entriesOf convention window sites = .ok entries := by
  have each : ∀ site ∈ sites, (do
      if ← ExceptT.lift (contains segment site) then entriesNear segment convention window site
      else return [] : Guarded Fatal (List Nat)) =
        pure (if segment.contains site then segment.walked convention window site else []) := by
    intro site _
    rw [contains_eq]
    change (if segment.contains site = true then entriesNear segment convention window site
      else pure []) = _
    split
    next inside => rw [entriesNear_eq room power whole inside]
    next => rfl
  refine ⟨_, ?_, Segment.entriesOf_eq power whole sites⟩
  rw [entriesOf, mapM_eq_pure_of_forall each, pure_bind, flatten_map_if, List.flatMap_def]

omit room power in
theorem entriesReferencing_agrees (low : segment.Low)
    (power : EntryConvention.isPowerOfTwo convention.alignment = true) {window : Nat}
    (whole : window % convention.alignment = 0) (target : Nat) :
    Agrees (entriesReferencing segment convention window target)
      (segment.entriesReferencing convention window target) := by
  obtain ⟨entries, checked, plain⟩ := entriesOf_eq low.room power whole (segment.references target)
  rw [entriesReferencing, references_eq low.room]
  rw [Segment.entriesReferencing, Segment.entriesAround, plain]
  apply Agrees.checked_bind rfl
  rw [checked]
  rfl

end Checked

end Landmark
