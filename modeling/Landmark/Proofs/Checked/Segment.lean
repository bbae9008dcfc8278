import Landmark.Proofs.Checked.Basic
import Landmark.Proofs.Segment.Hits

/-! # Reading and searching a segment, checked

A segment whose end is an address can be read and searched without a trap: every sum
stays below its end, every offset below its size, and a search goes on behind a hit that
lies in its haystack. To scan it a few bytes above its end have to be addresses too.
-/

namespace Landmark

open Log

/-- A segment that leaves room for 34 bits of address behind it. -/
def Segment.Low (segment : Segment) : Prop := segment.stop + 0x400000000 < Checked.word

theorem Segment.Low.room {segment : Segment} (low : segment.Low) : segment.stop < Checked.word :=
  Nat.lt_of_le_of_lt (Nat.le_add_right _ _) low

namespace Checked

variable {segment : Segment} {address : Nat}

/-! ## Reading -/

def stop (segment : Segment) : Checked Nat := add segment.base segment.size

def contains (segment : Segment) (address : Nat) : Checked Bool :=
  if segment.base < address then do
    let offset ← sub address segment.base
    return offset < segment.size
  else return false

def offset? (segment : Segment) (address : Nat) : Checked (Option Nat) :=
  if segment.base ≤ address then do
    if address < (← stop segment) then
      return some (← sub address segment.base)
    else return none
  else return none

def bytesFrom? (segment : Segment) (address : Nat) : Checked (Option Bytes) := do
  match ← offset? segment address with
  | some offset => return some (← behind segment.data offset)
  | none => return none

def byteBefore? (segment : Segment) (address : Nat) : Checked (Option UInt8) :=
  if address = 0 then return none
  else do
    match ← offset? segment (← sub address 1) with
    | some offset => return segment.data[offset]?
    | none => return none

/-- A pointer that would end behind the data is missing, and its end is no sum that can fail. -/
def readPointer? (segment : Segment) (address : Nat) : Checked (Option Nat) := do
  match ← offset? segment address with
  | some offset => return (Image.readPointer segment.data segment.bits offset).toOption
  | none => return none

def definedData (segment : Segment) : Checked Bytes := front segment.data segment.defined

theorem contains_eq (segment : Segment) (address : Nat) :
    contains segment address = .ok (segment.contains address) := by
  unfold contains
  split
  next below =>
    rw [sub_eq (Nat.le_of_lt below), ok_bind, Segment.contains, decide_eq_true below,
      Bool.true_and]
    rfl
  next above =>
    rw [Segment.contains, decide_eq_false above, Bool.false_and]
    rfl

theorem definedData_eq (segment : Segment) : definedData segment = .ok segment.definedData :=
  front_eq segment.defined_le

section Room

variable (room : segment.stop < word)
include room

theorem stop_eq : stop segment = .ok segment.stop := by
  unfold Segment.stop at room
  exact add_eq room

theorem offset?_eq (address : Nat) : offset? segment address = .ok (segment.offset? address) := by
  unfold offset?
  split
  next above =>
    rw [stop_eq room, ok_bind, sub_eq above, ok_bind, Segment.offset?]
    simp only [above, true_and]
    split <;> rfl
  next below =>
    rw [Segment.offset?, if_neg fun both => below both.1]
    rfl

omit room in
theorem offset_lt {offset : Nat} (found : segment.offset? address = some offset) :
    offset < segment.data.length := by
  unfold Segment.offset? at found
  split at found
  next inside =>
    obtain rfl := Option.some.inj found
    have above := inside.2
    unfold Segment.stop Segment.size at above
    omega
  next => cases found

theorem readPointer?_eq (address : Nat) :
    readPointer? segment address = .ok (segment.readPointer? address) := by
  rw [readPointer?, offset?_eq room, ok_bind, Segment.readPointer?]
  cases segment.offset? address <;> rfl

theorem bytesFrom?_eq (address : Nat) :
    bytesFrom? segment address = .ok (segment.bytesFrom? address) := by
  rw [bytesFrom?, offset?_eq room, ok_bind, Segment.bytesFrom?]
  cases found : segment.offset? address with
  | none => rfl
  | some offset =>
    dsimp only
    rw [behind_eq (Nat.le_of_lt (offset_lt found))]
    rfl

theorem byteBefore?_eq (address : Nat) :
    byteBefore? segment address = .ok (segment.byteBefore? address) := by
  unfold byteBefore? Segment.byteBefore?
  split
  next => rfl
  next positive =>
    rw [sub_eq (Nat.one_le_iff_ne_zero.mpr positive), ok_bind, offset?_eq room, ok_bind]
    cases segment.offset? (address - 1) <;> rfl

end Room

/-! ## Searching -/

def firstHit (needle : Bytes) : Bytes → Option Nat
  | [] => none
  | byte :: rest =>
    if needle.isPrefixOf (byte :: rest) then some 0 else (firstHit needle rest).map (· + 1)

/-- The addresses of the hits from a place in the haystack on. Each round costs one of `fuel`. -/
def hitsFrom (base : Nat) (needle haystack : Bytes) : (fuel place : Nat) → Checked (List Nat)
  | 0, _ => .error .endless
  | fuel + 1, place => do
    match firstHit needle (← behind haystack place) with
    | none => return []
    | some ahead =>
      let hit ← add place ahead
      let address ← add base hit
      let next ← add hit needle.length
      return address :: (← hitsFrom base needle haystack fuel next)

def find (segment : Segment) (needle : Bytes) : Checked (List Nat) :=
  if needle.isEmpty then return []
  else do
    let haystack ← definedData segment
    hitsFrom segment.base needle haystack (haystack.length + 1) 0

def references (segment : Segment) (target : Nat) : Checked (List Nat) :=
  find segment (Image.pointerBytes segment.bits target)

variable {needle haystack : Bytes}

theorem firstHit_fits {ahead : Nat} (found : firstHit needle haystack = some ahead) :
    ahead + needle.length ≤ haystack.length := by
  induction haystack generalizing ahead with
  | nil => cases found
  | cons byte rest ih =>
    unfold firstHit at found
    split at found
    next here =>
      obtain rfl := Option.some.inj found
      have fits := (List.isPrefixOf_iff_prefix.mp here).length_le
      omega
    next =>
      obtain ⟨further, inRest, rfl⟩ := Option.map_eq_some_iff.mp found
      have fits := ih inRest
      rw [List.length_cons]
      omega

/-- Going from byte to byte comes to the same as going from hit to hit. -/
theorem occurrences_eq (filled : needle ≠ []) (haystack : Bytes) (offset : Nat) :
    Segment.occurrences needle haystack offset =
      match firstHit needle haystack with
      | none => []
      | some ahead =>
        (offset + ahead) :: Segment.occurrences needle (haystack.drop (ahead + needle.length))
          (offset + ahead + needle.length) := by
  induction haystack generalizing offset with
  | nil => rw [Segment.occurrences, firstHit]
  | cons byte rest ih =>
    rw [Segment.occurrences, firstHit]
    split
    next here =>
      have positive := List.length_pos_iff.mpr filled
      rw [Segment.drop_behind_hit filled byte rest, Nat.max_eq_left positive]
      simp only [Nat.zero_add, Nat.add_zero]
    next =>
      rw [ih]
      cases firstHit needle rest with
      | none => rfl
      | some ahead =>
        have place : offset + 1 + ahead = offset + (ahead + 1) := by omega
        have count : ahead + 1 + needle.length = ahead + needle.length + 1 := by omega
        simp only [Option.map_some, place, count, List.drop_succ_cons]

theorem hitsFrom_eq {base : Nat} (filled : needle ≠ []) (low : base + haystack.length < word)
    {fuel place : Nat} (within : place ≤ haystack.length)
    (enough : haystack.length < place + fuel) :
    hitsFrom base needle haystack fuel place =
      .ok ((Segment.occurrences needle (haystack.drop place) place).map (base + ·)) := by
  induction fuel generalizing place with
  | zero => omega
  | succ fuel ih =>
    rw [hitsFrom, behind_eq within, ok_bind, occurrences_eq filled]
    cases found : firstHit needle (haystack.drop place) with
    | none => rfl
    | some ahead =>
      -- The hit lies in the haystack and is not empty, so the next round starts behind it.
      have positive := List.length_pos_iff.mpr filled
      have fits := firstHit_fits found
      rw [List.length_drop] at fits
      have later := @ih (place + ahead + needle.length) (by omega) (by omega)
      simp (disch := omega) only [add_eq, ok_bind, later, List.drop_drop, List.map_cons]
      rw [Nat.add_assoc place ahead needle.length]
      rfl

/-- A search needs room for the part that is searched only. -/
theorem find_eq_of_room (room : segment.base + segment.definedData.length < word)
    (needle : Bytes) : find segment needle = .ok (segment.find needle) := by
  unfold find Segment.find
  split
  next => rfl
  next filled =>
    have nonempty : needle ≠ [] := by simpa using filled
    rw [definedData_eq, ok_bind, hitsFrom_eq nonempty room (Nat.zero_le _) (by omega)]
    rfl

theorem find_eq (room : segment.stop < word) (needle : Bytes) :
    find segment needle = .ok (segment.find needle) := by
  have fits : segment.definedData.length ≤ segment.size := List.length_take_le' _ _
  unfold Segment.stop at room
  exact find_eq_of_room (by omega) needle

theorem references_eq (room : segment.stop < word) (target : Nat) :
    references segment target = .ok (segment.references target) :=
  find_eq room _

end Checked

end Landmark
