import Landmark.Proofs.Checked.Segment

/-! # Scanning for raw calls and compares, checked

A scan looks for the bytes of an opcode in its window and takes the operands from all
that follows. Where the operands would reach behind the segment it passes over them, so
neither the window nor the address it starts from can make it read what is not there.
-/

namespace Landmark

open Log

namespace Checked

section Rows

variable {α β : Type} {f : α → Option β}

theorem mapM_filter_eq {g : α → Checked (Option β)} {chosen : α → Bool} {row : List α}
    (same : ∀ a ∈ row, chosen a = true → g a = .ok (f a))
    (passed : ∀ a ∈ row, chosen a = false → f a = none) :
    (do return ((← (row.filter chosen).mapM g).filterMap id)) =
      (.ok (row.filterMap f) : Checked (List β)) := by
  have found : (row.filter chosen).mapM g = .ok ((row.filter chosen).map f) := by
    apply mapM_eq_ok_of_forall
    intro a member
    obtain ⟨inRow, held⟩ := List.mem_filter.mp member
    exact same a inRow held
  have kept : ((row.filter chosen).map f).filterMap id = row.filterMap f := by
    rw [List.filterMap_map, List.filterMap_filter]
    apply List.filterMap_congr
    intro a member
    cases held : chosen a with
    | true => rfl
    | false => exact (passed a member held).symm
  rw [found, ok_bind, kept]
  rfl

theorem filterMap_range_eq {f : Nat → Option β} {few many : Nat} (le : few ≤ many)
    (passed : ∀ i, few ≤ i → i < many → f i = none) :
    (List.range many).filterMap f = (List.range few).filterMap f := by
  obtain ⟨more, rfl⟩ := Nat.exists_eq_add_of_le le
  have nothing : ((List.range more).map (few + ·)).filterMap f = [] := by
    rw [List.filterMap_eq_nil_iff]
    intro i member
    obtain ⟨offset, inRange, rfl⟩ := List.mem_map.mp member
    have less := List.mem_range.mp inRange
    exact passed _ (Nat.le_add_right _ _) (by omega)
  rw [List.range_add, List.filterMap_append, nothing, List.append_nil]

end Rows

variable {segment : Segment} {bytes : Bytes} {start window i : Nat}

/-! ## Calls -/

/-- The target of the call whose opcode is found at the place `i` of `bytes`, when its operand
lies in them. -/
def callFrom (bytes : Bytes) (start i : Nat) : Checked (Option Nat) := do
  let first ← add i 1
  let last ← add i 5
  if last ≤ bytes.length then
    let operand := (bytes.take last).drop first
    let distance := Bytes.toNat
      [← get operand 0, ← get operand 1, ← get operand 2, ← get operand 3]
    let next ← add (← add start i) 5
    return some (Segment.reach next distance)
  else return none

def rawCalls (segment : Segment) (start window : Nat) : Checked (List Nat) := do
  match ← bytesFrom? segment start with
  | none => return []
  | some bytes =>
    let room ← front bytes (min window bytes.length)
    let opcodes := (List.range room.length).filter fun i => room[i]? == some 0xE8
    return (← opcodes.mapM (callFrom bytes start)).filterMap id

theorem callAt_short (short : bytes.length < 5) (place : Nat) :
    Segment.callAt bytes place = none := by
  unfold Segment.callAt
  split
  next => simp at short; omega
  next => rfl

theorem callAt_of_ne {byte : UInt8} (other : byte ≠ 0xE8) (rest : Bytes) (place : Nat) :
    Segment.callAt (byte :: rest) place = none := by
  unfold Segment.callAt
  split
  next same => exact absurd (List.cons.inj same).1 other
  next => rfl

theorem callFrom_eq (opcode : bytes[i]? = some 0xE8) (low : start + i + 5 < word) :
    callFrom bytes start i = .ok (Segment.callAt (bytes.drop i) (start + i)) := by
  obtain ⟨inside, here⟩ := List.getElem?_eq_some_iff.mp opcode
  unfold callFrom
  simp (disch := omega) only [add_eq, ok_bind]
  split
  next enough =>
    -- All five bytes are there, so what is taken for the operand has the length it is read with.
    have four : ((bytes.take (i + 5)).drop (i + 1)).length = 4 := by
      rw [List.length_drop, List.length_take]
      omega
    have whole : bytes.drop i =
        0xE8 :: ((bytes.take (i + 5)).drop (i + 1) ++ bytes.drop (i + 5)) := by
      have count : i + 5 - (i + 1) = 4 := by omega
      have rest := List.take_append_drop 4 (bytes.drop (i + 1))
      rw [List.drop_drop] at rest
      rw [List.drop_eq_getElem_cons inside, here, List.drop_take, count]
      exact congrArg (List.cons 0xE8) rest.symm
    rw [whole, Segment.callAt_call four]
    obtain ⟨a, b, c, d, operand⟩ := List.length_eq_four.mp four
    rw [operand]
    rfl
  next short =>
    rw [callAt_short (by rw [List.length_drop]; omega)]
    rfl

theorem length_of_bytesFrom? (found : segment.bytesFrom? start = some bytes) :
    start + bytes.length = segment.stop := by
  obtain ⟨offset, there, rfl⟩ := Option.map_eq_some_iff.mp found
  unfold Segment.offset? at there
  split at there
  next inside =>
    obtain rfl := Option.some.inj there
    have above := inside.2
    unfold Segment.stop Segment.size at above ⊢
    rw [List.length_drop]
    omega
  next => cases there

/-- A scan for calls looks for operands up to four bytes behind the end. -/
theorem rawCalls_eq_of_room (room : segment.stop + 4 < word) (start window : Nat) :
    rawCalls segment start window = .ok (segment.rawCalls start window).value := by
  have below : segment.stop < word := Nat.lt_of_le_of_lt (Nat.le_add_right _ _) room
  rw [rawCalls, bytesFrom?_eq below, ok_bind, Segment.rawCalls]
  cases found : segment.bytesFrom? start with
  | none => rfl
  | some bytes =>
    have ends := length_of_bytesFrom? found
    dsimp only
    rw [front_eq (Nat.min_le_right _ _), ok_bind, Traced.value_bind, Traced.value_pure,
      Segment.scan_eq]
    have room : (bytes.take (min window bytes.length)).length = min window bytes.length := by
      rw [List.length_take]
      omega
    rw [room]
    apply mapM_filter_eq
    · intro i member opcode
      have less := List.mem_range.mp member
      have here : bytes[i]? = some 0xE8 := by
        rw [beq_iff_eq, List.getElem?_take_of_lt less] at opcode
        exact opcode
      exact callFrom_eq here (by omega)
    · intro i member other
      have less := List.mem_range.mp member
      have inside : i < bytes.length := by omega
      rw [beq_eq_false_iff_ne, List.getElem?_take_of_lt less, List.getElem?_eq_getElem inside,
        ne_eq, Option.some.injEq] at other
      rw [List.drop_eq_getElem_cons inside]
      exact callAt_of_ne other _ _

theorem rawCalls_eq (low : segment.Low) (start window : Nat) :
    rawCalls segment start window = .ok (segment.rawCalls start window).value := by
  unfold Segment.Low at low
  exact rawCalls_eq_of_room (by omega) start window

/-! ## Compares -/

def compareOpcode : Bytes := [0x83, 0x3D]

/-- The address compared with zero by the instruction whose opcode is found at the place `i` of
`bytes`, when all of it lies in them. -/
def compareFrom (bytes : Bytes) (i : Nat) : Checked (Option Nat) := do
  let last ← add i 7
  if last ≤ bytes.length then
    let whole := (bytes.take last).drop i
    if (← get whole 6) ≠ 0 then return none
    else
      return some (Bytes.toNat [← get whole 2, ← get whole 3, ← get whole 4, ← get whole 5])
  else return none

def rawCompares (bytes : Bytes) (window : Nat) : Checked (List Nat) := do
  let room ← front bytes (min window bytes.length)
  let opcodes := (List.range room.length).filter fun i => compareOpcode.isPrefixOf (room.drop i)
  return (← opcodes.mapM (compareFrom bytes)).filterMap id

def onlyRawCompare (segment : Segment) (start window : Nat) : Checked (Option Nat) := do
  match ← bytesFrom? segment start with
  | none => return none
  | some bytes => return Segment.only? (← rawCompares bytes window)

theorem comparedAt_short (short : bytes.length < 7) : Segment.comparedAt bytes = none := by
  unfold Segment.comparedAt
  split
  next => simp at short; omega
  next => rfl

theorem comparedAt_of_ne {a b c d last : UInt8} (other : last ≠ 0) (rest : Bytes) :
    Segment.comparedAt (compareOpcode ++ a :: b :: c :: d :: last :: rest) = none := by
  unfold Segment.comparedAt
  split
  next same =>
    simp only [compareOpcode, List.cons_append, List.nil_append, List.cons.injEq] at same
    exact absurd same.2.2.2.2.2.2.1 other
  next => rfl

theorem prefix_of_comparedAt (found : (Segment.comparedAt bytes).isSome) :
    compareOpcode <+: bytes := by
  unfold Segment.comparedAt at found
  split at found
  next a b c d rest => exact ⟨a :: b :: c :: d :: 0 :: rest, rfl⟩
  next => cases found

theorem compareFrom_eq (opcode : compareOpcode <+: bytes.drop i) (low : i + 7 < word) :
    compareFrom bytes i = .ok (Segment.comparedAt (bytes.drop i)) := by
  unfold compareFrom
  simp (disch := omega) only [add_eq, ok_bind]
  split
  next enough =>
    obtain ⟨rest, split⟩ := opcode
    have long : 5 ≤ rest.length := by
      have whole := congrArg List.length split
      rw [List.length_append, List.length_drop] at whole
      simp only [compareOpcode, List.length_cons, List.length_nil] at whole
      omega
    have seven : i + 7 - i = 7 := by omega
    rw [List.drop_take, ← split, seven]
    match rest, long with
    | a :: b :: c :: d :: e :: rest, _ =>
      by_cases zero : e = 0
      · subst zero
        rfl
      · rw [comparedAt_of_ne zero]
        exact if_pos zero
  next short =>
    rw [comparedAt_short (by rw [List.length_drop]; omega)]
    rfl

theorem isPrefixOf_room_iff :
    compareOpcode.isPrefixOf ((bytes.take window).drop i) = true ↔
      i + 2 ≤ window ∧ compareOpcode <+: bytes.drop i := by
  rw [List.isPrefixOf_iff_prefix, List.drop_take, List.prefix_take_iff, and_comm]
  simp only [compareOpcode, List.length_cons, List.length_nil]
  refine and_congr_left fun _ => ?_
  omega

theorem rawCompares_eq (low : bytes.length + 7 < word) (window : Nat) :
    rawCompares bytes window = .ok (Segment.rawCompares bytes window) := by
  rw [rawCompares, front_eq (Nat.min_le_right _ _), ok_bind, List.length_take,
    Nat.min_eq_left (Nat.min_le_right _ _)]
  generalize size : min window bytes.length = room
  -- Both bytes of an opcode lie in the window, so its last place holds none.
  have found := @mapM_filter_eq _ _
    (fun i => if i + 2 ≤ room then Segment.comparedAt (bytes.drop i) else none)
    (compareFrom bytes) (fun i => compareOpcode.isPrefixOf ((bytes.take room).drop i))
    (List.range room) ?_ ?_
  · rw [found, Segment.rawCompares, Segment.scan_eq]
    rw [@filterMap_range_eq _ _ (room - 1) room (by omega),
      @filterMap_range_eq _ _ (room - 1) (min (window - 1) bytes.length) (by omega)]
    · congr 1
      apply List.filterMap_congr
      intro i member
      have less := List.mem_range.mp member
      rw [if_pos (by omega)]
    · intro i above below
      exact comparedAt_short (by rw [List.length_drop]; omega)
    · intro i above below
      exact if_neg (by omega)
  · intro i member chosen
    have less := List.mem_range.mp member
    obtain ⟨fits, here⟩ := isPrefixOf_room_iff.mp chosen
    rw [if_pos fits]
    exact compareFrom_eq here (by omega)
  · intro i member passed
    split
    next fits =>
      rw [← Option.not_isSome_iff_eq_none]
      intro compared
      have chosen := isPrefixOf_room_iff.mpr ⟨fits, prefix_of_comparedAt compared⟩
      exact Bool.false_ne_true (passed.symm.trans chosen)
    next => rfl

/-- A scan for compares looks for their ends up to seven bytes behind the last byte. -/
theorem onlyRawCompare_eq (room : segment.stop < word) (short : segment.size + 7 < word)
    (start window : Nat) :
    onlyRawCompare segment start window = .ok (segment.onlyRawCompare start window).value := by
  rw [onlyRawCompare, bytesFrom?_eq room, ok_bind, Segment.onlyRawCompare]
  cases found : segment.bytesFrom? start with
  | none => rfl
  | some bytes =>
    have few : bytes.length ≤ segment.size := by
      obtain ⟨offset, _, rfl⟩ := Option.map_eq_some_iff.mp found
      rw [List.length_drop]
      exact Nat.sub_le _ _
    dsimp only
    rw [rawCompares_eq (by omega), ok_bind]
    split <;> rfl

end Checked

end Landmark
