import Landmark.Proofs.Routine.Redecoding
import Mathlib.Data.Int.ModEq

/-! # Code mapped elsewhere

Where a segment is mapped makes no difference to the functions in it. Branches are relative, so two
traversals of the same bytes in two places keep in step: each address that one looks at is moved by
the same distance as the segment. Only a target can go around the end of the address space instead,
and then it lies outside of the segment in both places or inside of it in both.
-/

namespace Landmark

/-- An address moved as it is, or around the end of the address space. -/
def Shifts (span : Nat) (shift : Int) (address moved : Nat) : Prop :=
  (moved : Int) = address + shift ∨ address < span ∧ (moved : Int) = (address + shift) % span

theorem Shifts.cases {span : Nat} {shift : Int} {address moved : Nat}
    (shifts : Shifts span shift address moved) (above : -(span : Int) < shift)
    (below : shift < span) :
    (moved : Int) = address + shift ∨ address < span ∧ moved < span ∧
      ((moved : Int) = address + shift + span ∨ (moved : Int) = address + shift - span) := by
  rcases shifts with straight | ⟨low, around⟩
  · exact .inl straight
  · by_cases negative : (address : Int) + shift < 0
    · rw [← Int.add_emod_right, Int.emod_eq_of_lt (by omega) (by omega)] at around
      exact .inr ⟨low, by omega, .inl around⟩
    · by_cases beyond : (span : Int) ≤ address + shift
      · rw [← Int.sub_emod_right, Int.emod_eq_of_lt (by omega) (by omega)] at around
        exact .inr ⟨low, by omega, .inr around⟩
      · rw [Int.emod_eq_of_lt (by omega) (by omega)] at around
        exact .inl around

/-- An error that names an address names this one. -/
def DecodeError.Names (address : Nat) : DecodeError → Prop
  | invalid other | insufficient other => other = address
  | unsupportedBitness _ => True

/-- What bytes of `data` decode to depends on the bytes only, and a target is as far away wherever
they stand, modulo the size of the address space. -/
structure Disassembler.Relative (disassembler : Disassembler) (span : Nat) (data : Bytes) :
    Prop where
  decode : ∀ {window address other decoding}, window <:+: data → address < span → other < span →
    disassembler.decode address window = .ok decoding →
    disassembler.decode other window = .ok { decoding with address := other }
  target : ∀ {window address other target}, window <:+: data → address < span → other < span →
    disassembler.target? address window = some target →
    ∃ moved, disassembler.target? other window = some moved ∧ target < span ∧
      (moved : Int) = (target + (other - address)) % span
  named : ∀ {window address error}, window <:+: data →
    disassembler.decode address window = .error error → error.Names address

/-- The instruction at an address moved by a shift. -/
def Decoding.shift (shift : Int) (decoding : Decoding) : Decoding :=
  { decoding with address := (decoding.address + shift).toNat }

/-- Two outcomes are both values or both failures, and related. -/
inductive Alike {ε α : Type} (failures : ε → ε → Prop) (values : α → α → Prop) :
    Except ε α → Except ε α → Prop where
  | ok {a b : α} : values a b → Alike failures values (.ok a) (.ok b)
  | error {a b : ε} : failures a b → Alike failures values (.error a) (.error b)

/-- The same failure elsewhere. -/
inductive ParseFailure.Moves (disassembler : Disassembler) (span : Nat) (shift : Int) :
    ParseFailure → ParseFailure → Prop where
  | outside {address moved : Nat} {name : String} :
      Shifts span shift address moved →
      Moves disassembler span shift (.outsideSegment address name) (.outsideSegment moved name)
  /-- Both name the address at which the same bytes do not decode. -/
  | undecodable {address moved : Nat} {window : Bytes} {here there : DecodeError} :
      (moved : Int) = address + shift →
      disassembler.decode address window = .error here → here.Names address →
      disassembler.decode moved window = .error there → there.Names moved →
      Moves disassembler span shift (.undecodable here) (.undecodable there)
  | tooMany {limit : Nat} :
      Moves disassembler span shift (.tooManyInstructions limit) (.tooManyInstructions limit)
  | overlap {first second movedFirst movedSecond : Nat} :
      (movedFirst : Int) = first + shift → (movedSecond : Int) = second + shift →
      Moves disassembler span shift (.overlap first second) (.overlap movedFirst movedSecond)

/-- The same function elsewhere. -/
structure Routine.Moves (span : Nat) (shift : Int) (routine moved : Routine) : Prop where
  entry : (moved.entry : Int) = routine.entry + shift
  instructions : List.Forall₂ (fun i j : Decoding =>
    (j.address : Int) = i.address + shift ∧ j = { i with address := j.address })
    routine.instructions moved.instructions
  gaps : moved.gaps = routine.gaps
  called : List.Forall₂ (fun here there : Nat => (there : Int) = (here + shift) % span)
    (routine.callTargets none).value (moved.callTargets none).value

namespace Discovery.Task

/-- The same bytes in two places of an address space. -/
structure Relocated (span : Nat) (shift : Int) (task moved : Task) : Prop where
  base : (moved.segment.base : Int) = task.segment.base + shift
  data : moved.segment.data = task.segment.data
  name : moved.segment.name = task.segment.name
  below : task.segment.stop ≤ span
  moved_below : moved.segment.stop ≤ span
  disassembler : moved.disassembler = task.disassembler
  limit : moved.limit = task.limit
  relative : task.disassembler.Relative span task.segment.data

namespace Relocated

variable {span : Nat} {shift : Int} {task moved : Task}
  (relocated : Relocated span shift task moved) {address other : Nat}
include relocated

/-! ## Addresses -/

theorem stop_eq : (moved.segment.stop : Int) = task.segment.stop + shift := by
  have base := relocated.base
  unfold Segment.stop Segment.size
  rw [relocated.data]
  omega

/-- What is inside in either place is moved as it is. -/
theorem straight_of_inside (shifts : Shifts span shift address other)
    (inside : task.segment.contains address ∨ moved.segment.contains other) :
    (other : Int) = address + shift := by
  rw [Segment.contains_iff, Segment.contains_iff] at inside
  have base := relocated.base
  have stop := relocated.stop_eq
  have below := relocated.below
  have moved_below := relocated.moved_below
  rcases shifts.cases (by omega) (by omega) with straight | around
  · exact straight
  · omega

theorem contains_eq (shifts : Shifts span shift address other) :
    moved.segment.contains other = task.segment.contains address := by
  have base := relocated.base
  have stop := relocated.stop_eq
  rw [Bool.eq_iff_iff]
  constructor
  · intro inside
    have straight := relocated.straight_of_inside shifts (.inr inside)
    rw [Segment.contains_iff] at inside ⊢
    omega
  · intro inside
    have straight := relocated.straight_of_inside shifts (.inl inside)
    rw [Segment.contains_iff] at inside ⊢
    omega

/-- An address inside and the one it is moved to lie in the address space. -/
theorem lt_span (straight : (other : Int) = address + shift)
    (inside : task.segment.contains address) : address < span ∧ other < span := by
  rw [Segment.contains_iff] at inside
  have stop := relocated.stop_eq
  have below := relocated.below
  have moved_below := relocated.moved_below
  omega

theorem moved_nonneg (inside : task.segment.contains address) : 0 ≤ address + shift := by
  rw [Segment.contains_iff] at inside
  have base := relocated.base
  omega

/-! ## Bytes -/

theorem bytesFrom?_eq (straight : (other : Int) = address + shift)
    (inside : task.segment.contains address) :
    ∃ bytes, bytes <:+: task.segment.data ∧ task.segment.bytesFrom? address = some bytes ∧
      moved.segment.bytesFrom? other = some bytes := by
  rw [Segment.contains_iff] at inside
  have base := relocated.base
  have stop := relocated.stop_eq
  have here : task.segment.offset? address = some (address - task.segment.base) :=
    if_pos (by omega)
  have there : moved.segment.offset? other = some (address - task.segment.base) :=
    Segment.offset?_eq_some_iff.mpr (by omega)
  refine ⟨task.segment.data.drop (address - task.segment.base),
    (List.drop_suffix _ _).isInfix, ?_, ?_⟩
  · rw [Segment.bytesFrom?, here, Option.map_some]
  · rw [Segment.bytesFrom?, there, Option.map_some, relocated.data]

theorem window?_eq (shifts : Shifts span shift address other) :
    moved.window? other = task.window? address := by
  unfold window?
  rw [relocated.contains_eq shifts]
  split
  next inside =>
    have straight := relocated.straight_of_inside shifts (.inl inside)
    obtain ⟨bytes, _, here, there⟩ := relocated.bytesFrom?_eq straight inside
    rw [here, there, relocated.disassembler]
  next => rfl

theorem infix_of_window? {window : Bytes} (found : task.window? address = some window) :
    task.segment.contains address ∧ window <:+: task.segment.data := by
  unfold window? at found
  split at found
  next inside =>
    have straight : (((address : Int) + shift).toNat : Int) = address + shift :=
      Int.toNat_of_nonneg (relocated.moved_nonneg inside)
    obtain ⟨bytes, within, here, _⟩ := relocated.bytesFrom?_eq straight inside
    rw [here] at found
    obtain rfl := Option.some.inj found
    exact ⟨inside, (List.take_prefix _ _).isInfix.trans within⟩
  next => cases found

/-! ## Instructions -/

section Decoded

variable {window : Bytes} {decoding : Decoding} (straight : (other : Int) = address + shift)
  (found : task.window? address = some window)
include straight found

theorem decode_eq_ok (decoded : task.disassembler.decode address window = .ok decoding) :
    decoding.address = address ∧
      moved.disassembler.decode other window = .ok (decoding.shift shift) := by
  obtain ⟨inside, within⟩ := relocated.infix_of_window? found
  obtain ⟨low, moved_low⟩ := relocated.lt_span straight inside
  -- Decoded once more where it stands, it has the address it was asked for.
  have again := relocated.relative.decode within low low decoded
  have here : decoding.address = address :=
    congrArg Decoding.address (Except.ok.inj (decoded.symm.trans again))
  refine ⟨here, ?_⟩
  have address_eq : (decoding.address + shift).toNat = other := by omega
  rw [relocated.disassembler, Decoding.shift, address_eq]
  exact relocated.relative.decode within low moved_low decoded

theorem decode_eq_error {error : DecodeError}
    (failed : task.disassembler.decode address window = .error error) :
    ∃ there, moved.disassembler.decode other window = .error there ∧
      ParseFailure.Moves task.disassembler span shift (.undecodable error)
        (.undecodable there) := by
  obtain ⟨inside, within⟩ := relocated.infix_of_window? found
  obtain ⟨low, moved_low⟩ := relocated.lt_span straight inside
  rw [relocated.disassembler]
  cases outcome : task.disassembler.decode other window with
  | ok decoding =>
    rw [relocated.relative.decode within moved_low low outcome] at failed
    cases failed
  | error there =>
    exact ⟨there, rfl, .undecodable straight failed (relocated.relative.named within failed) outcome
      (relocated.relative.named within outcome)⟩

omit found in
theorem following_alike (here : decoding.address = address)
    (inside : task.segment.contains address) :
    List.Forall₂ (Shifts span shift) (following decoding) (following (decoding.shift shift)) := by
  have nonneg := relocated.moved_nonneg inside
  unfold following
  change List.Forall₂ _ _ (if decoding.category.fallsThrough then _ else _)
  split
  · refine .cons (.inl ?_) .nil
    unfold Decoding.stop Decoding.shift
    dsimp only
    omega
  · exact .nil

omit found in
/-- Where the same bytes have a target in one place, they have it in the other. -/
theorem target_alike (inside : task.segment.contains address)
    (within : window <:+: task.segment.data) :
    Option.Rel (fun here there : Nat => here < span ∧ (there : Int) = (here + shift) % span)
      (task.disassembler.target? address window) (moved.disassembler.target? other window) := by
  obtain ⟨low, moved_low⟩ := relocated.lt_span straight inside
  have shift_eq : (other : Int) - address = shift := by omega
  rw [relocated.disassembler]
  cases here : task.disassembler.target? address window with
  | some target =>
    obtain ⟨there, reached, below, away⟩ := relocated.relative.target within low moved_low here
    rw [shift_eq] at away
    rw [reached]
    exact .some ⟨below, away⟩
  | none =>
    cases there : task.disassembler.target? other window with
    | none => exact .none
    | some target =>
      obtain ⟨back, reached, _⟩ := relocated.relative.target within moved_low low there
      rw [here] at reached
      cases reached

theorem branches_alike :
    List.Forall₂ (Shifts span shift) (task.branches address window decoding)
      (moved.branches other window (decoding.shift shift)) := by
  obtain ⟨inside, within⟩ := relocated.infix_of_window? found
  have targets := relocated.target_alike straight inside within
  unfold branches
  change List.Forall₂ _ _ (if decoding.category.branches then _ else _)
  split
  · generalize task.disassembler.target? address window = here at targets
    generalize moved.disassembler.target? other window = there at targets
    cases targets with
    | some related => exact .cons (.inr related) .nil
    | none => exact .nil
  · exact .nil

end Decoded

end Relocated

/-! ## Two traversals in step -/

/-- What is recorded, elsewhere. -/
def shiftEntry (shift : Int) (entry : Nat × Decoding) : Nat × Decoding :=
  ((entry.1 + shift).toNat, entry.2.shift shift)

/-- What is recorded lies inside and names the address it was found at. -/
def Kept (task : Task) (recorded : List (Nat × Decoding)) : Prop :=
  ∀ entry ∈ recorded, task.segment.contains entry.1 ∧ entry.2.address = entry.1

/-- The state of the same traversal elsewhere. -/
structure Mirrors (span : Nat) (shift : Int) (task : Task) (state other : State) : Prop where
  recorded : other.recorded = state.recorded.map (shiftEntry shift)
  kept : task.Kept state.recorded
  pending : List.Forall₂ (Shifts span shift) state.pending other.pending

/-- The same step elsewhere. -/
inductive StepsAlike (span : Nat) (shift : Int) (task : Task) : Step → Step → Prop where
  | finished : StepsAlike span shift task .finished .finished
  | failed {here there : ParseFailure} :
      here.Moves task.disassembler span shift there →
      StepsAlike span shift task (.failed here) (.failed there)
  | advanced {state other : State} {events reports : List Log.Event} :
      Mirrors span shift task state other →
      StepsAlike span shift task (.advanced state events) (.advanced other reports)

namespace Relocated

variable {span : Nat} {shift : Int} {task moved : Task}
  (relocated : Relocated span shift task moved) {state other : State}
include relocated

theorem has_eq (mirrors : Mirrors span shift task state other) {address target : Nat}
    (shifts : Shifts span shift address target) : other.has target = state.has address := by
  rw [Bool.eq_iff_iff, State.has_iff, State.has_iff, mirrors.recorded, List.map_map]
  constructor
  · intro member
    obtain ⟨entry, recorded, rfl⟩ := List.mem_map.mp member
    have inside := (mirrors.kept entry recorded).1
    have nonneg := relocated.moved_nonneg inside
    have place : (((entry.1 : Int) + shift).toNat : Int) = entry.1 + shift :=
      Int.toNat_of_nonneg nonneg
    have there := (relocated.contains_eq (.inl place)).trans inside
    have straight := relocated.straight_of_inside shifts (.inr there)
    refine List.mem_map.mpr ⟨entry, recorded, ?_⟩
    change (((entry.1 : Int) + shift).toNat : Int) = _ at straight
    omega
  · intro member
    obtain ⟨entry, recorded, rfl⟩ := List.mem_map.mp member
    have inside := (mirrors.kept entry recorded).1
    have straight := relocated.straight_of_inside shifts (.inl inside)
    refine List.mem_map.mpr ⟨entry, recorded, ?_⟩
    change ((entry.1 : Int) + shift).toNat = target
    omega

/-- What one traversal looks at next, the other looks at elsewhere. -/
theorem exists_pending (mirrors : Mirrors span shift task state other) {address : Nat}
    {rest : List Nat} (pending : state.pending = address :: rest) :
    ∃ target later, other.pending = target :: later ∧ Shifts span shift address target ∧
      List.Forall₂ (Shifts span shift) rest later ∧ other.has target = state.has address ∧
      moved.window? target = task.window? address := by
  have waiting := mirrors.pending
  rw [pending] at waiting
  obtain ⟨target, later, shifts, behind, pending'⟩ := List.forall₂_cons_left_iff.mp waiting
  exact ⟨target, later, pending', shifts, behind, relocated.has_eq mirrors shifts,
    relocated.window?_eq shifts⟩

theorem mirrors_record (mirrors : Mirrors span shift task state other) {address target : Nat}
    {rest later : List Nat} {window : Bytes} {decoding : Decoding}
    (straight : (target : Int) = address + shift)
    (behind : List.Forall₂ (Shifts span shift) rest later)
    (found : task.window? address = some window) (here : decoding.address = address) :
    Mirrors span shift task
      { recorded := (address, decoding) :: state.recorded
        pending := following decoding ++ task.branches address window decoding ++ rest }
      { recorded := (target, decoding.shift shift) :: other.recorded
        pending := following (decoding.shift shift) ++
          moved.branches target window (decoding.shift shift) ++ later } := by
  have inside := (relocated.infix_of_window? found).1
  have place : ((address : Int) + shift).toNat = target := by omega
  refine ⟨?_, ?_, ?_⟩
  · dsimp only
    rw [List.map_cons, mirrors.recorded, shiftEntry, place]
  · intro entry member
    rcases List.mem_cons.mp member with rfl | earlier
    · exact ⟨inside, here⟩
    · exact mirrors.kept entry earlier
  · exact List.rel_append (List.rel_append (relocated.following_alike straight here inside)
      (relocated.branches_alike straight found)) behind

/-- From states that mirror each other both traversals take the same step. -/
theorem step_alike (mirrors : Mirrors span shift task state other) :
    StepsAlike span shift task (task.step state) (moved.step other) := by
  have moves := task.step_moves state
  have recorded : other.recorded.length = state.recorded.length := by
    rw [mirrors.recorded, List.length_map]
  generalize task.step state = outcome at moves
  cases moves with
  | finished pending =>
    have waiting := mirrors.pending
    rw [pending] at waiting
    simp only [step, List.forall₂_nil_left_iff.mp waiting]
    exact .finished
  | skipped pending seen =>
    obtain ⟨target, later, pending', _, behind, has, _⟩ := relocated.exists_pending mirrors pending
    simp only [step, pending', has, seen, if_true]
    exact .advanced ⟨mirrors.recorded, mirrors.kept, behind⟩
  | outside pending fresh outside =>
    obtain ⟨target, later, pending', shifts, _, has, window⟩ :=
      relocated.exists_pending mirrors pending
    simp only [step, pending', has, fresh, window, outside, relocated.name]
    exact .failed (.outside shifts)
  | undecodable pending fresh found failed =>
    obtain ⟨target, later, pending', shifts, _, has, window⟩ :=
      relocated.exists_pending mirrors pending
    have straight := relocated.straight_of_inside shifts (.inl (relocated.infix_of_window? found).1)
    obtain ⟨there, failed', alike⟩ := relocated.decode_eq_error straight found failed
    simp only [step, pending', has, fresh, window, found, failed']
    exact .failed alike
  | full pending fresh found decoded full =>
    obtain ⟨target, later, pending', shifts, _, has, window⟩ :=
      relocated.exists_pending mirrors pending
    have straight := relocated.straight_of_inside shifts (.inl (relocated.infix_of_window? found).1)
    have decoded' := (relocated.decode_eq_ok straight found decoded).2
    simp only [step, pending', has, fresh, window, found, decoded', relocated.limit, recorded,
      full, if_true]
    exact .failed .tooMany
  | recorded pending fresh found decoded room =>
    obtain ⟨target, later, pending', shifts, behind, has, window⟩ :=
      relocated.exists_pending mirrors pending
    have straight := relocated.straight_of_inside shifts (.inl (relocated.infix_of_window? found).1)
    obtain ⟨here, decoded'⟩ := relocated.decode_eq_ok straight found decoded
    simp only [step, pending', has, fresh, window, found, decoded', relocated.limit, recorded,
      Nat.not_le.mpr room, if_false]
    exact .advanced (relocated.mirrors_record mirrors straight behind found here)

/-- From such states both traversals end alike. -/
theorem run_alike (mirrors : Mirrors span shift task state other) :
    Alike (ParseFailure.Moves task.disassembler span shift)
      (fun here there => task.Kept here ∧ there = here.map (shiftEntry shift))
      (task.run state).value (moved.run other).value := by
  fun_induction Discovery.Task.run task state generalizing other with
  | case1 state finished =>
    have alike := relocated.step_alike mirrors
    rw [finished] at alike
    rw [value_run moved other]
    generalize moved.step other = outcome at alike
    cases alike
    exact .ok ⟨mirrors.kept, mirrors.recorded⟩
  | case2 state failure failed =>
    have alike := relocated.step_alike mirrors
    rw [failed] at alike
    rw [value_run moved other]
    generalize moved.step other = outcome at alike
    cases alike with
    | failed moves => exact .error moves
  | case3 state next events advanced later =>
    rename_i further
    have alike := relocated.step_alike mirrors
    rw [advanced] at alike
    rw [value_run moved other]
    generalize moved.step other = outcome at alike
    cases alike with
    | advanced mirrors => exact further mirrors

theorem discover_alike {entry target : Nat} (shifts : Shifts span shift entry target) :
    Alike (ParseFailure.Moves task.disassembler span shift)
      (fun here there => task.Kept here ∧ there = here.map (shiftEntry shift))
      (task.discover entry).result (moved.discover target).result := by
  have started : Mirrors span shift task { recorded := [], pending := [entry] }
      { recorded := [], pending := [target] } := ⟨rfl, nofun, .cons shifts .nil⟩
  have alike := relocated.run_alike started
  rw [result_discover, result_discover]
  generalize (task.run _).value = here at alike
  generalize (moved.run _).value = there at alike
  cases alike with
  | error moves => exact .error moves
  | @ok recorded _ related =>
    obtain ⟨kept, rfl⟩ := related
    refine .ok ⟨fun entry member => kept entry (List.mem_mergeSort.mp member), ?_⟩
    refine (List.map_mergeSort fun a inA b inB => decide_eq_decide.mpr ?_).symm
    have first := relocated.moved_nonneg (kept a inA).1
    have second := relocated.moved_nonneg (kept b inB).1
    unfold shiftEntry
    dsimp only
    omega

end Relocated

end Discovery.Task

namespace Routine

variable {shift : Int} {row : List Decoding}

theorem shift_room {first second : Decoding} (low : 0 ≤ (first.address : Int) + shift)
    (high : 0 ≤ (second.address : Int) + shift) :
    ((second.shift shift).address < (first.shift shift).stop ↔ second.address < first.stop) ∧
      (second.shift shift).address - (first.shift shift).stop = second.address - first.stop := by
  unfold Decoding.stop Decoding.shift
  dsimp only
  omega

/-- Instructions that overlap do so elsewhere. -/
theorem overlap?_shift (nonneg : ∀ i ∈ row, 0 ≤ (i.address : Int) + shift) :
    Routine.overlap? (row.map (Decoding.shift shift)) =
      (Routine.overlap? row).map (Prod.map (Decoding.shift shift) (Decoding.shift shift)) := by
  fun_induction Routine.overlap? row with
  | case1 first second rest overlaps =>
    have order := (shift_room (nonneg first (by simp)) (nonneg second (by simp))).1.mpr overlaps
    rw [List.map_cons, List.map_cons, Routine.overlap?, if_pos order]
    rfl
  | case2 first second rest apart ih =>
    have order := mt (shift_room (nonneg first (by simp)) (nonneg second (by simp))).1.mp apart
    rw [List.map_cons, List.map_cons, Routine.overlap?, if_neg order, ← List.map_cons,
      ih fun i member => nonneg i (List.mem_cons_of_mem _ member)]
  | case3 row short =>
    rcases Extent.nil_or_singleton short with rfl | ⟨last, rfl⟩
    · rfl
    · rfl

/-- What is between instructions is as much elsewhere. -/
theorem rooms_shift (nonneg : ∀ i ∈ row, 0 ≤ (i.address : Int) + shift) :
    rooms (row.map (Decoding.shift shift)) = rooms row := by
  fun_induction rooms row with
  | case1 first second rest room none ih =>
    have same := (shift_room (nonneg first (by simp)) (nonneg second (by simp))).2
    rw [List.map_cons, List.map_cons, rooms, same, if_pos none, ← List.map_cons,
      ih fun i member => nonneg i (List.mem_cons_of_mem _ member)]
  | case2 first second rest room some ih =>
    have same := (shift_room (nonneg first (by simp)) (nonneg second (by simp))).2
    rw [List.map_cons, List.map_cons, rooms, same, if_neg some, ← List.map_cons,
      ih fun i member => nonneg i (List.mem_cons_of_mem _ member)]
  | case3 row short =>
    rcases Extent.nil_or_singleton short with rfl | ⟨last, rfl⟩
    · rfl
    · rfl

end Routine

namespace Discovery.Task.Relocated

variable {span : Nat} {shift : Int} {task moved : Task}
  (relocated : Relocated span shift task moved)
include relocated

theorem called_alike {routine other : Routine} (segment : routine.segment = task.segment)
    (disassembler : routine.disassembler = task.disassembler)
    (segment' : other.segment = moved.segment)
    (disassembler' : other.disassembler = moved.disassembler) {row : List Decoding}
    (inside : ∀ i ∈ row, task.segment.contains i.address) :
    List.Forall₂ (fun here there : Nat => (there : Int) = (here + shift) % span)
      ((row.filter Decoding.isCall).filterMap routine.target?)
      (((row.map (Decoding.shift shift)).filter Decoding.isCall).filterMap other.target?) := by
  induction row with
  | nil => exact .nil
  | cons first rest ih =>
    have later := ih fun i member => inside i (List.mem_cons_of_mem _ member)
    have here := inside first List.mem_cons_self
    have straight : ((first.shift shift).address : Int) = first.address + shift :=
      Int.toNat_of_nonneg (relocated.moved_nonneg here)
    obtain ⟨bytes, within, found, found'⟩ := relocated.bytesFrom?_eq straight here
    have targets := relocated.target_alike straight here within
    have target : routine.target? first =
        task.disassembler.target? first.address bytes := by
      rw [Routine.target?, Routine.bytesOf, segment, disassembler, found, Option.getD_some]
    have target' : other.target? (first.shift shift) =
        moved.disassembler.target? (first.shift shift).address bytes := by
      rw [Routine.target?, Routine.bytesOf, segment', disassembler', found', Option.getD_some]
    rw [← target, ← target'] at targets
    have same : (first.shift shift).isCall = first.isCall := rfl
    rw [List.map_cons, List.filter_cons, List.filter_cons, same]
    split
    · rw [List.filterMap_cons, List.filterMap_cons]
      generalize routine.target? first = one at targets
      generalize other.target? (first.shift shift) = two at targets
      cases targets with
      | none => exact later
      | some related => exact .cons related.2 later
    · exact later

theorem parse_alike {entry target : Nat} (shifts : Shifts span shift entry target) :
    Alike (ParseFailure.Moves task.disassembler span shift) (Routine.Moves span shift)
      (task.parse entry).result (moved.parse target).result := by
  have alike := relocated.discover_alike shifts
  rw [result_parse, result_parse]
  cases ended : (task.discover entry).result with
  | error failure =>
    rw [ended] at alike
    generalize (moved.discover target).result = there at alike
    cases alike with
    | error moves => exact .error moves
  | ok found =>
    rw [ended] at alike
    generalize (moved.discover target).result = there at alike
    cases alike with
    | ok related =>
      obtain ⟨kept, rfl⟩ := related
      have inside : ∀ i ∈ found.map Prod.snd, task.segment.contains i.address := by
        intro i member
        obtain ⟨entry, among, rfl⟩ := List.mem_map.mp member
        rw [(kept entry among).2]
        exact (kept entry among).1
      have nonneg := fun i member => relocated.moved_nonneg (inside i member)
      have row : (found.map (shiftEntry shift)).map Prod.snd =
          (found.map Prod.snd).map (Decoding.shift shift) := by
        rw [List.map_map, List.map_map]
        rfl
      have entered := (discover_eq_ok_iff.mp ended).1.inside entry .refl
      dsimp only [Except.bind]
      rw [← Routine.overlap?_eq, ← Routine.overlap?_eq, row, Routine.overlap?_shift nonneg]
      cases overlaps : Routine.overlap? (found.map Prod.snd) with
      | some pair =>
        rw [Routine.overlap?_eq] at overlaps
        obtain ⟨before, behind, split, _⟩ := Extent.overlap?_eq_some_iff.mp overlaps
        exact .error (.overlap (Int.toNat_of_nonneg (nonneg _ (by simp [split])))
          (Int.toNat_of_nonneg (nonneg _ (by simp [split]))))
      | none =>
        refine .ok ⟨relocated.straight_of_inside shifts (.inl entered), ?_, ?_, ?_⟩
        · change List.Forall₂ _ (found.map Prod.snd) ((found.map (shiftEntry shift)).map Prod.snd)
          rw [row]
          refine List.forall₂_map_right_iff.mpr (List.forall₂_same.mpr fun i member => ?_)
          exact ⟨Int.toNat_of_nonneg (nonneg i member), rfl⟩
        · change (Routine.rooms ((found.map (shiftEntry shift)).map Prod.snd)).length = _
          rw [row, Routine.rooms_shift nonneg]
          rfl
        · change List.Forall₂ _ (((found.map Prod.snd).filter Decoding.isCall).filterMap _)
            ((((found.map (shiftEntry shift)).map Prod.snd).filter Decoding.isCall).filterMap _)
          rw [row]
          exact relocated.called_alike rfl rfl rfl rfl inside

end Discovery.Task.Relocated

namespace X86

variable {bits : Nat} {mode : Mode} {wide : Width} {data : Bytes}

/-- Targets at one distance from the ends of two instructions are as far apart as these are. -/
theorem target_moved {span : Nat} (divides : span ∣ Width.qword.span)
    (address other length distance : Nat) :
    (((((other + length) % Width.qword.span + distance) % span : Nat)) : Int) =
      (((((address + length) % Width.qword.span + distance) % span : Nat) : Int) +
        (other - address)) % span := by
  have residue : ∀ start : Nat, ((((start + length) % Width.qword.span + distance) % span : Nat) :
      Int) ≡ start + length + distance [ZMOD span] := by
    intro start
    refine Int.natCast_modEq_iff.mpr ((Nat.mod_modEq _ _).trans (Nat.ModEq.add_right _ ?_))
    exact (Nat.mod_modEq _ _).of_dvd divides
  have reduced : (((((other + length) % Width.qword.span + distance) % span : Nat)) : Int) =
      ((((other + length) % Width.qword.span + distance) % span : Nat) : Int) % span := by
    rw [← Int.natCast_mod, Nat.mod_mod]
  rw [reduced]
  have here := (residue address).add_right ((other : Int) - address)
  have same : (address : Int) + length + distance + (other - address) =
      other + length + distance := by omega
  rw [same] at here
  exact (residue other).trans here.symm

/-- Where all branches have targets as wide as addresses, code is relative. -/
theorem relative_of_width (known : Mode.ofBits? bits = some mode)
    (divides : wide.span ∣ Width.qword.span)
    (natural : ∀ {taken s body width}, taken <:+: data → Stands mode taken s body →
      s.Aims width → width = wide) :
    (disassembler bits).Relative wide.span data where
  decode := by
    intro window address other decoding _ _ _ decoded
    obtain ⟨whole, read, rfl⟩ := Disassembler.ofDetail_decode_eq_ok_iff.mp decoded
    obtain ⟨_, known, read⟩ := Decoder.detail_eq_ok_iff.mp read
    obtain ⟨taken, rest, s, body, rfl, few, stands, rfl⟩ := exists_stands_of_decodeIn read
    have again := Decoder.detail_eq_ok known (stands.decodeIn_eq few other rest)
    exact Disassembler.ofDetail_decode_eq_ok_iff.mpr ⟨_, again, rfl⟩
  target := by
    intro window address other target within _ _ reached
    obtain ⟨whole, found, near⟩ := Option.bind_eq_some_iff.mp reached
    obtain ⟨_, known', read⟩ := Decoder.detail_eq_ok_iff.mp (toOption_eq_some_iff.mp found)
    obtain rfl := Option.some.inj (known.symm.trans known')
    obtain ⟨taken, rest, s, body, rfl, few, stands, rfl⟩ := exists_stands_of_decodeIn read
    obtain ⟨width, first⟩ := Instruction.nearTarget?_eq_some_iff.mp near
    cases stands.steers with
    | straight none => exact absurd first (none _ _ _)
    | @aimed form aimed head =>
      obtain ⟨width', distance, aims, there⟩ := aimed
      obtain rfl := natural ((List.prefix_append _ _).isInfix.trans within) stands aims
      have operand := Option.some.inj ((head _).symm.trans first)
      rw [there] at operand
      obtain ⟨rfl, rfl⟩ := Operand.nearTarget.inj operand
      refine ⟨((other + taken.length) % Width.qword.span + distance) % width'.span, ?_,
        Nat.mod_lt _ (by cases width' <;> decide), target_moved divides _ _ _ _⟩
      have again := Decoder.detail_eq_ok known (stands.decodeIn_eq few other rest)
      refine Option.bind_eq_some_iff.mpr ⟨_, toOption_eq_some_iff.mpr again, ?_⟩
      refine Instruction.nearTarget?_eq_some_iff.mpr ⟨width', ?_⟩
      exact (head _).trans (congrArg some (there _))
  named := by
    intro window address error _ failed
    change (Decoder.detail bits address window).map _ = _ at failed
    simp only [Decoder.detail, known] at failed
    cases refused : Decoder.decode mode address window with
    | ok whole =>
      rw [refused] at failed
      cases failed
    | error refusal =>
      rw [refused] at failed
      obtain rfl := Except.error.inj failed
      cases refusal <;> rfl

theorem relative_disassembler_64 (data : Bytes) :
    (disassembler 64).Relative Width.qword.span data := by
  refine relative_of_width (by rfl) (Nat.dvd_refl _) fun {_ s _ _} _ stands aims => ?_
  have mode := stands.mode_eq
  rcases aims with rfl | rfl
  · unfold Setting.branchWidth
    rw [mode]
  · rw [mode]
    rfl

/-- Without the byte that changes the size of operands 32-bit code is relative. -/
theorem relative_disassembler_32 (data : Bytes) (absent : 0x66 ∉ data) :
    (disassembler 32).Relative Width.dword.span data := by
  refine relative_of_width (by rfl) (by decide) fun {_ s _ _} within stands aims => ?_
  have mode := stands.mode_eq
  obtain ⟨front, starts, follow⟩ := stands.follow
  have plain : s.prefixes.operandSize = false :=
    follow.operandSize fun member => absent ((starts.isInfix.trans within).subset member)
  have narrow : s.prefixes.extension = none := follow.extension nofun rfl
  rcases aims with rfl | rfl
  · unfold Setting.branchWidth Setting.operandWidth Setting.hasExtension
    rw [mode, narrow, plain]
    rfl
  · rw [mode]
    rfl

end X86

namespace Routine

/-- **Where code is mapped makes no difference.** Of the same bytes in two places of an address
space, either a function is reconstructed in both or in neither. The instructions are then the same,
each moved by the distance of the places, and so are the targets of calls, but around the end of the
address space; or it fails for the same reason, at addresses that are moved in this way. -/
theorem parse_relocated {segment : Segment} {disassembler : Disassembler}
    {span base entry target limit : Nat} {shift : Int}
    (relative : disassembler.Relative span segment.data)
    (moved : (base : Int) = segment.base + shift) (below : segment.stop ≤ span)
    (moved_below : base + segment.size ≤ span) (shifts : Shifts span shift entry target) :
    Alike (ParseFailure.Moves disassembler span shift) (Routine.Moves span shift)
      (parse segment disassembler entry limit).result
      (parse { segment with base } disassembler target limit).result := by
  let task : Discovery.Task := { segment, disassembler, limit }
  let other : Discovery.Task := { segment := { segment with base }, disassembler, limit }
  have relocated : task.Relocated span shift other :=
    ⟨moved, rfl, rfl, below, moved_below, rfl, rfl, relative⟩
  exact relocated.parse_alike shifts

/-- In the last page of the address space the call goes to its first byte. -/
theorem branching_relocated :
    (X86.disassembler 32).Relative X86.Width.dword.span branching.segment.data ∧
    ((0xFFFFF000 : Nat) : Int) = branching.segment.base + 0xFFBFE000 ∧
    branching.segment.stop ≤ X86.Width.dword.span ∧
    0xFFFFF000 + branching.segment.size ≤ X86.Width.dword.span ∧
    Shifts X86.Width.dword.span 0xFFBFE000 0x401001 0xFFFFF001 ∧
    ∃ there, (parse { branching.segment with base := 0xFFFFF000 } (X86.disassembler 32)
        0xFFFFF001 4).result = .ok there ∧
      Moves X86.Width.dword.span 0xFFBFE000 (branching.routineOf 0x401001 branchingRow) there := by
  have relative := X86.relative_disassembler_32 branching.segment.data (by decide)
  have moved : ((0xFFFFF000 : Nat) : Int) = branching.segment.base + 0xFFBFE000 := by decide
  have below : branching.segment.stop ≤ X86.Width.dword.span := by decide
  have moved_below : 0xFFFFF000 + branching.segment.size ≤ X86.Width.dword.span := by decide
  have shifts : Shifts X86.Width.dword.span 0xFFBFE000 0x401001 0xFFFFF001 := .inl (by decide)
  refine ⟨relative, moved, below, moved_below, shifts, ?_⟩
  have alike := @parse_relocated _ _ _ _ _ _ 4 _ relative moved below moved_below shifts
  have parsed : (parse branching.segment (X86.disassembler 32) 0x401001 4).result =
      .ok (branching.routineOf 0x401001 branchingRow) := result_parse_branching
  rw [parsed] at alike
  cases outcome : (parse { branching.segment with base := 0xFFFFF000 } (X86.disassembler 32)
      0xFFFFF001 4).result with
  | ok there =>
    rw [outcome] at alike
    cases alike with
    | ok moves => exact ⟨there, rfl, moves⟩
  | error failure =>
    rw [outcome] at alike
    cases alike

end Routine

end Landmark
