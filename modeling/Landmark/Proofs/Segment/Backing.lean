import Landmark.Proofs.Segment.Calls
import Landmark.Proofs.Segment.Greedy

/-! # What a search looks at

Byte strings and pointers are searched in the part of a segment that the image defines. The scans
for raw calls and raw compares take all bytes from an address on: they look at the bytes of their
window and at an operand behind it. What they list is certain where the image defines these. In a
window that goes beyond, it depends on what the program has written there.
-/

namespace Landmark.Segment

variable {segment other : Segment} {bytes : Bytes} {start window count : Nat}

/-- Two segments that differ in bytes which the image does not define, if in any. -/
structure Twins (segment other : Segment) : Prop where
  base : segment.base = other.base
  size : segment.size = other.size
  bits : segment.bits = other.bits
  defined : segment.defined = other.defined
  data : segment.definedData = other.definedData

/-- The image defines all bytes in front of an address, as far as the segment has them. -/
def DefinesUpTo (segment : Segment) (address : Nat) : Prop :=
  min address segment.stop ≤ segment.base + segment.defined

/-! ## What is seen -/

theorem Twins.stop (twins : Twins segment other) : segment.stop = other.stop := by
  unfold Segment.stop
  rw [twins.base, twins.size]

theorem Twins.find (twins : Twins segment other) (needle : Bytes) :
    segment.find needle = other.find needle := by
  unfold Segment.find
  rw [twins.data, twins.base]

theorem Twins.take_onward (twins : Twins segment other) (above : segment.base ≤ start)
    (known : segment.DefinesUpTo (start + count)) :
    (segment.onward start).take count = (other.onward start).take count := by
  have within : min (start - segment.base + count) segment.size ≤ segment.defined := by
    unfold DefinesUpTo Segment.stop at known
    omega
  have front : ∀ one : Segment, one.size = segment.size → one.defined = segment.defined →
      one.data.take (start - segment.base + count) =
        one.definedData.take (min (start - segment.base + count) segment.size) := by
    intro one size defined
    rw [definedData, List.take_take, defined, Nat.min_eq_left within, ← size]
    exact List.take_eq_take_min
  unfold onward
  rw [← twins.base, List.take_drop, List.take_drop, front segment rfl rfl,
    front other twins.size.symm twins.defined.symm, twins.data]

theorem callAt_take (bytes : Bytes) (place : Nat) :
    callAt (bytes.take 5) place = callAt bytes place := by
  match bytes with
  | [] | [_] | [_, _] | [_, _, _] | [_, _, _, _] => rfl
  | opcode :: a :: b :: c :: d :: rest =>
    by_cases called : opcode = 0xE8
    · subst called
      rfl
    · rw [Checked.callAt_of_ne called]
      exact Checked.callAt_of_ne called _ _

theorem comparedAt_take (bytes : Bytes) : comparedAt (bytes.take 7) = comparedAt bytes := by
  apply Option.ext
  intro operand
  simp only [comparedAt_eq_some_iff, Bytes.field, List.getElem?_take, List.drop_take,
    List.take_take]
  rfl

/-- A scan looks at the bytes of its window and at as many behind it as its reader goes on to. -/
theorem scan_take {α : Type} {read : Bytes → Nat → Option α} {further : Nat}
    (sees : ∀ bytes place, read (bytes.take (further + 1)) place = read bytes place)
    (enough : ∀ place < window, place + further < count) (bytes : Bytes) (place : Nat) :
    scan read (bytes.take count) window place = scan read bytes window place := by
  have places : min window (bytes.take count).length = min window bytes.length := by
    rw [List.length_take]
    cases window with
    | zero => simp only [Nat.zero_min]
    | succ window =>
      have last := enough window (Nat.lt_succ_self _)
      omega
  rw [scan_eq, scan_eq, places]
  apply List.filterMap_congr
  intro i member
  have inside := List.mem_range.mp member
  have reached := enough i (by omega)
  have cut : min (further + 1) (count - i) = further + 1 := by omega
  rw [← sees ((bytes.take count).drop i), List.drop_take, List.take_take, cut, sees]

theorem Twins.rawCalls (twins : Twins segment other)
    (known : segment.DefinesUpTo (start + window + 4)) :
    (segment.rawCalls start window).value = (other.rawCalls start window).value := by
  have seen : ∀ bytes : Bytes, scan callAt (bytes.take (window + 4)) window start =
      scan callAt bytes window start := by
    intro bytes
    apply scan_take callAt_take
    omega
  simp only [value_rawCalls, ← twins.base, ← twins.stop]
  split
  next inside =>
    rw [Nat.add_assoc] at known
    rw [← seen, twins.take_onward inside.1 known, seen]
  next => rfl

theorem Twins.onlyRawCompare (twins : Twins segment other)
    (known : segment.DefinesUpTo (start + window + 5)) :
    (segment.onlyRawCompare start window).value = (other.onlyRawCompare start window).value := by
  have seen : ∀ bytes : Bytes, rawCompares (bytes.take (window + 5)) window =
      rawCompares bytes window := by
    intro bytes
    apply @scan_take _ _ _ _ 6 fun bytes _ => comparedAt_take bytes
    omega
  simp only [value_onlyRawCompare, ← twins.base, ← twins.stop]
  split
  next inside =>
    rw [Nat.add_assoc] at known
    rw [← seen, twins.take_onward inside.1 known, seen]
  next => rfl

/-! ## What is seen beyond -/

/-- The first address from `start` on whose byte the image does not define. -/
def firstUndefined (segment : Segment) (start : Nat) : Nat :=
  max start (segment.base + segment.defined)

/-- The bytes from an address on that the image defines. -/
def definedOnward (segment : Segment) (start : Nat) : Bytes :=
  segment.definedData.drop (start - segment.base)

/-- The segment with other bytes where the image defines none: the given ones first from `start`
on, and zeros around them. -/
def rewritten (segment : Segment) (start : Nat) (bytes : Bytes) : Segment :=
  { segment with
    data := segment.definedData ++ (List.replicate (start - segment.base - segment.defined) 0 ++
      (bytes ++ List.replicate segment.size 0)).take (segment.size - segment.defined)
    defined_le := by
      have fits := segment.defined_le
      simp only [definedData, size, List.length_append, List.length_take, List.length_replicate]
      omega }

theorem length_definedData (segment : Segment) :
    segment.definedData.length = segment.defined := by
  rw [definedData, List.length_take, Nat.min_eq_left segment.defined_le]

theorem length_definedOnward (segment : Segment) (start : Nat) :
    (segment.definedOnward start).length = segment.defined - (start - segment.base) := by
  rw [definedOnward, List.length_drop, length_definedData]

theorem twins_rewritten (segment : Segment) (start : Nat) (bytes : Bytes) :
    Twins segment (segment.rewritten start bytes) := by
  refine ⟨rfl, ?_, rfl, rfl, ?_⟩
  · have fits := segment.defined_le
    simp only [rewritten, size, List.length_append, length_definedData, List.length_take,
      List.length_replicate]
    omega
  · exact (List.take_left' segment.length_definedData).symm

theorem exists_onward_rewritten
    (fits : segment.firstUndefined start + bytes.length ≤ segment.stop) :
    ∃ count, (segment.rewritten start bytes).onward start =
      segment.definedOnward start ++ (bytes ++ List.replicate count 0) := by
  have room : bytes.length ≤
      segment.size - segment.defined - (start - segment.base - segment.defined) := by
    unfold firstUndefined Segment.stop at fits
    omega
  have zeros : (List.replicate (start - segment.base - segment.defined) (0 : UInt8)).length =
      start - segment.base - segment.defined := List.length_replicate
  refine ⟨min (segment.size - segment.defined - (start - segment.base - segment.defined) -
    bytes.length) segment.size, ?_⟩
  unfold onward rewritten definedOnward
  dsimp only
  rw [List.drop_append, length_definedData, List.drop_take, List.drop_left' zeros,
    List.take_append, List.take_of_length_le room, List.take_replicate]

/-- A scan lists as many calls as there are bytes 0xE8 with four bytes behind them. -/
theorem length_scan_callAt (bytes : Bytes) (window place : Nat) :
    (scan callAt bytes window place).length =
      (bytes.take (min window (bytes.length - 4))).count 0xE8 := by
  induction bytes generalizing window place with
  | nil => rw [scan, List.take_nil, List.length_nil, List.count_nil]
  | cons byte rest ih =>
    cases window with
    | zero => rw [scan, Nat.zero_min, List.take_zero, List.length_nil, List.count_nil]
    | succ window =>
      rw [scan, List.length_cons]
      by_cases long : 4 ≤ rest.length
      · have called := isSome_callAt byte place long
        have places : min (window + 1) (rest.length + 1 - 4) =
            min window (rest.length - 4) + 1 := by omega
        rw [places, List.take_succ_cons, List.count_cons, ← called, ← ih window (place + 1)]
        cases callAt (byte :: rest) place <;> rfl
      · have short : (byte :: rest).length < 5 := by
          rw [List.length_cons]
          omega
        have places : min (window + 1) (rest.length + 1 - 4) = min window (rest.length - 4) := by
          omega
        have nowhere : rest.length - 4 = 0 := by omega
        rw [Checked.callAt_short short, ih, places, nowhere, Nat.min_zero, List.take_zero,
          List.take_zero]

/-- An opcode in the first undefined byte makes one call more. -/
theorem exists_length_rawCalls_rewritten (above : segment.base ≤ start)
    (reaches : segment.firstUndefined start < start + window)
    (fits : segment.firstUndefined start + 5 ≤ segment.stop) :
    ∃ calls, ∀ byte,
      ((segment.rewritten start (byte :: List.replicate 4 0)).rawCalls start window).value.length =
        calls + if byte == 0xE8 then 1 else 0 := by
  refine ⟨(segment.definedOnward start).count 0xE8, fun byte => ?_⟩
  have twins := segment.twins_rewritten start (byte :: List.replicate 4 0)
  obtain ⟨count, onward⟩ :=
    @exists_onward_rewritten segment (byte :: List.replicate 4 0) start fits
  rw [List.cons_append, List.replicate_append_replicate] at onward
  have front := segment.length_definedOnward start
  unfold firstUndefined at reaches fits
  have inside : segment.base ≤ start ∧ start < segment.stop := ⟨above, by omega⟩
  -- The scan asks all places of the defined bytes and at least the one behind them.
  obtain ⟨further, places⟩ : ∃ further, min window
      ((segment.definedOnward start ++ byte :: List.replicate (4 + count) 0).length - 4) =
        (segment.definedOnward start).length + (further + 1) := by
    rw [List.length_append, List.length_cons, List.length_replicate, front]
    refine ⟨min window (segment.defined - (start - segment.base) + count + 1) -
      (segment.defined - (start - segment.base)) - 1, ?_⟩
    omega
  have zeros : (List.replicate (min further (4 + count)) (0 : UInt8)).count 0xE8 = 0 := by
    rw [List.count_replicate]
    rfl
  rw [value_rawCalls, ← twins.base, ← twins.stop, if_pos inside, onward, length_scan_callAt,
    places, List.take_length_add_append, List.count_append, List.take_succ_cons,
    List.take_replicate, List.count_cons, zeros, Nat.zero_add]

theorem exists_twins_rawCalls_ne (above : segment.base ≤ start)
    (reaches : segment.firstUndefined start < start + window)
    (fits : segment.firstUndefined start + 5 ≤ segment.stop) :
    ∃ other, Twins segment other ∧
      (segment.rawCalls start window).value ≠ (other.rawCalls start window).value := by
  by_contra! same
  obtain ⟨calls, length⟩ := exists_length_rawCalls_rewritten above reaches fits
  have without := length 0
  have withCall := length 0xE8
  rw [← same _ (twins_rewritten segment _ _)] at without withCall
  have more : calls + 1 = calls := withCall.symm.trans without
  omega

/-- What the only compare names that the scan comes to, where there is one in the first undefined
bytes. -/
theorem eq_of_onlyRawCompare_rewritten {named : Nat} {low : UInt8}
    (reaches : segment.firstUndefined start + 2 ≤ start + window)
    (fits : segment.firstUndefined start + 7 ≤ segment.stop)
    (found : ((segment.rewritten start [0x83, 0x3D, low, 0, 0, 0, 0]).onlyRawCompare
      start window).value = some named) :
    named = Bytes.toNat [low, 0, 0, 0] := by
  obtain ⟨⟨above, _⟩, place, unique, field⟩ := onlyRawCompare_eq_some_iff.mp found
  obtain ⟨count, onward⟩ :=
    @exists_onward_rewritten segment [0x83, 0x3D, low, 0, 0, 0, 0] start fits
  rw [onward] at unique field
  have front := segment.length_definedOnward start
  have inside : segment.defined - (start - segment.base) < min (window - 1)
      (segment.definedOnward start ++
        ([0x83, 0x3D, low, 0, 0, 0, 0] ++ List.replicate count 0)).length := by
    have base : (segment.rewritten start [0x83, 0x3D, low, 0, 0, 0, 0]).base = segment.base := rfl
    unfold firstUndefined at reaches
    rw [List.length_append, List.length_append, front, List.length_cons]
    omega
  -- It stands behind all defined bytes, and is the only one.
  have compared := @comparedAt_drop_eq_some_iff _ _ _ (Bytes.toNat [low, 0, 0, 0]) inside
  rw [List.drop_left' front] at compared
  obtain ⟨here, same⟩ := compared.mp rfl
  rw [field, ← unique.only _ here, same]

theorem exists_twins_onlyRawCompare_ne
    (reaches : segment.firstUndefined start + 2 ≤ start + window)
    (fits : segment.firstUndefined start + 7 ≤ segment.stop) (named : Nat) :
    ∃ other, Twins segment other ∧ (other.onlyRawCompare start window).value ≠ some named := by
  by_contra! same
  -- The same operand would have to stand there whatever has been written.
  have stands : ∀ low, named = Bytes.toNat [low, 0, 0, 0] := fun low =>
    eq_of_onlyRawCompare_rewritten reaches fits (same _ (twins_rewritten segment start _))
  exact absurd ((stands 0).symm.trans (stands 1)) (by decide)

/-- What the searches of a segment depend on, and what they do not depend on. -/
structure SearchesBacked (segment : Segment) : Prop where
  strings : ∀ other, Twins segment other → ∀ needle, segment.find needle = other.find needle ∧
    (segment.findOnly needle).value = (other.findOnly needle).value
  pointers : ∀ other, Twins segment other → ∀ target,
    segment.references target = other.references target ∧
      (segment.onlyReference target).value = (other.onlyReference target).value
  calls : ∀ other, Twins segment other → ∀ start window,
    segment.DefinesUpTo (start + window + 4) →
      (segment.rawCalls start window).value = (other.rawCalls start window).value
  compares : ∀ other, Twins segment other → ∀ start window,
    segment.DefinesUpTo (start + window + 5) →
      (segment.onlyRawCompare start window).value = (other.onlyRawCompare start window).value
  /-- Where the window holds an undefined byte with room for a call, there is another answer. -/
  undefinedCall : ∀ start window, segment.base ≤ start →
    segment.firstUndefined start < start + window →
    segment.firstUndefined start + 5 ≤ segment.stop →
    ∃ other, Twins segment other ∧
      (segment.rawCalls start window).value ≠ (other.rawCalls start window).value
  /-- Where it holds two with room for a compare, no operand is certain. -/
  undefinedCompare : ∀ start window, segment.firstUndefined start + 2 ≤ start + window →
    segment.firstUndefined start + 7 ≤ segment.stop → ∀ named,
    ∃ other, Twins segment other ∧ (other.onlyRawCompare start window).value ≠ some named

/-- **Byte strings and pointers are searched in what the image defines, and nowhere else. What the
raw scans list is certain up to there, and open to change behind it.** -/
theorem searchesBacked (segment : Segment) : segment.SearchesBacked := by
  constructor
  · intro other twins needle
    rw [value_findOnly, value_findOnly, twins.find]
    exact ⟨rfl, rfl⟩
  · intro other twins target
    unfold references onlyReference
    rw [value_findOnly, value_findOnly, twins.find, twins.bits]
    exact ⟨rfl, rfl⟩
  · exact fun other twins start window known => twins.rawCalls known
  · exact fun other twins start window known => twins.onlyRawCompare known
  · exact fun start window above reaches fits => exists_twins_rawCalls_ne above reaches fits
  · exact fun start window reaches fits named => exists_twins_onlyRawCompare_ne reaches fits named

/-- A segment of which the image defines the first byte. -/
def oneDefined (behind : Bytes) : Segment :=
  { name := ".data"
    base := 0x1000
    data := 0xC3 :: behind
    defined := 1
    defined_le := by simp }

/-- Scans come to what stands in bytes that the image does not define. -/
theorem oneDefined_scanned : ∃ segment other, Twins segment other ∧ segment.defined = 1 ∧
    (segment.rawCalls 0x1000 16).value = [] ∧ (other.rawCalls 0x1000 16).value = [0x1006] ∧
      (segment.onlyRawCompare 0x1000 16).value = none ∧
      (other.onlyRawCompare 0x1000 16).value = some 0x12345678 := by
  refine ⟨oneDefined (List.replicate 12 0),
    oneDefined [0xE8, 0, 0, 0, 0, 0x83, 0x3D, 0x78, 0x56, 0x34, 0x12, 0], ?_⟩
  exact ⟨⟨rfl, rfl, rfl, rfl, rfl⟩, by decide⟩

end Landmark.Segment
