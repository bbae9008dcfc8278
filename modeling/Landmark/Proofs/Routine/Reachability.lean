import Landmark.Proofs.Extent
import Landmark.Proofs.Routine.Flow

/-! # What a traversal finds

A traversal finds exactly the addresses that control reaches, each with the instruction
there, whenever all of them can be decoded and are not too many; otherwise it fails for
a reason that is true. Neither depends on the order in which addresses are taken off
the stack. A function results when no two of the instructions overlap.
-/

namespace Landmark.Discovery.Task

variable {task : Task} {entry : Nat}

/-- Everything that control reaches lies strictly inside the segment, decodes, and is within the
limit. -/
structure Traceable (task : Task) (entry : Nat) : Prop where
  inside : ∀ address, task.Reaches entry address → task.segment.contains address
  decodes : ∀ address, task.Reaches entry address → ∃ decoding, task.Decodes address decoding
  few : (task.reach entry).encard ≤ task.limit

/-- A row that holds each address that control reaches, with the instruction there, in order. -/
structure Traces (task : Task) (entry : Nat) (found : List (Nat × Decoding)) : Prop where
  ascending : found.Pairwise fun a b => a.1 < b.1
  addresses : ∀ address, address ∈ found.map Prod.fst ↔ task.Reaches entry address
  decodes : ∀ address decoding, (address, decoding) ∈ found → task.Decodes address decoding

namespace Traces

theorem mem_iff {found : List (Nat × Decoding)} (traces : task.Traces entry found)
    {address : Nat} {decoding : Decoding} :
    (address, decoding) ∈ found ↔ task.Reaches entry address ∧ task.Decodes address decoding := by
  constructor
  · intro member
    exact ⟨(traces.addresses address).mp (List.mem_map_of_mem member),
      traces.decodes address decoding member⟩
  · rintro ⟨reaches, decodes⟩
    obtain ⟨⟨_, other⟩, member, rfl⟩ := List.mem_map.mp ((traces.addresses address).mpr reaches)
    rwa [decodes.unique (traces.decodes _ other member)]

theorem unique {first second : List (Nat × Decoding)} (h₁ : task.Traces entry first)
    (h₂ : task.Traces entry second) : first = second := by
  have sorted : ∀ {row : List (Nat × Decoding)}, task.Traces entry row → row.Nodup := fun h =>
    h.ascending.imp fun less same => by rw [same] at less; exact lt_irrefl _ less
  have perm : first.Perm second := by
    rw [List.perm_ext_iff_of_nodup (sorted h₁) (sorted h₂)]
    rintro ⟨address, decoding⟩
    rw [h₁.mem_iff, h₂.mem_iff]
  exact perm.eq_of_pairwise (fun a b _ _ less greater => absurd less (Nat.lt_asymm greater))
    h₁.ascending h₂.ascending

theorem traceable {found : List (Nat × Decoding)} (traces : task.Traces entry found)
    (few : found.length ≤ task.limit) : task.Traceable entry := by
  have decodes : ∀ address, task.Reaches entry address →
      ∃ decoding, task.Decodes address decoding := by
    intro address reaches
    obtain ⟨⟨_, decoding⟩, member, rfl⟩ := List.mem_map.mp ((traces.addresses address).mpr reaches)
    exact ⟨decoding, traces.decodes _ decoding member⟩
  refine ⟨fun address reaches => ?_, decodes, ?_⟩
  · obtain ⟨decoding, decodes⟩ := decodes address reaches
    exact decodes.inside
  · have same : task.reach entry = ((found.map Prod.fst).toFinset : Set Nat) := by
      ext address
      simpa [reach] using (traces.addresses address).symm
    rw [same, Set.encard_coe_eq_coe_finsetCard]
    exact_mod_cast (List.toFinset_card_le _).trans (by simpa using few)

end Traces

theorem value_run (task : Task) (state : State) :
    (task.run state).value = match task.step state with
      | .finished => .ok state.recorded
      | .failed failure => .error failure
      | .advanced next _ => (task.run next).value := by
  rw [run]
  split
  next finished => rw [finished]
  next failed => rw [failed]
  next advanced => rw [advanced]

/-- A run ends with a state that still keeps what every step keeps, or for a reason that is
true. -/
theorem run_outcome {state : State} (inv : Invariant task entry state) :
    (∃ final, Invariant task entry final ∧ final.pending = [] ∧
      (task.run state).value = .ok final.recorded) ∨
    ∃ failure, task.Explains entry failure ∧ (task.run state).value = .error failure := by
  fun_induction task.run state with
  | case1 state finished =>
    have moves := task.step_moves state
    rw [finished] at moves
    cases moves with
    | finished done => exact .inl ⟨state, inv, done, rfl⟩
  | case2 state failure failed => exact .inr ⟨failure, inv.explains failed, rfl⟩
  | case3 state next events advanced later ih => exact ih (inv.step advanced)

theorem traces_of_invariant {state : State} (inv : Invariant task entry state)
    (done : state.pending = []) :
    task.Traces entry (state.recorded.mergeSort fun a b => a.1 ≤ b.1) := by
  have sorted : (state.recorded.mergeSort fun a b => a.1 ≤ b.1).Pairwise fun a b => a.1 ≤ b.1 :=
    Extent.ascending_mergeSort state.recorded
  have perm := List.mergeSort_perm state.recorded fun a b => decide (a.1 ≤ b.1)
  have distinct := (perm.map Prod.fst).nodup_iff.mpr inv.distinct
  refine ⟨?_, ?_, ?_⟩
  · refine (sorted.and (List.pairwise_map.mp distinct)).imp ?_
    rintro a b ⟨le, ne⟩
    exact lt_of_le_of_ne le ne
  · intro address
    rw [(perm.map Prod.fst).mem_iff]
    constructor
    · intro member
      obtain ⟨⟨_, decoding⟩, recorded, rfl⟩ := List.mem_map.mp member
      exact (inv.recorded recorded).1
    · exact inv.complete done
  · intro address decoding member
    exact (inv.recorded (List.mem_mergeSort.mp member)).2

theorem result_discover (task : Task) (entry : Nat) :
    (task.discover entry).result =
      (task.run { recorded := [], pending := [entry] }).value.map
        fun recorded => recorded.mergeSort fun a b => a.1 ≤ b.1 := by
  simp only [discover, Log.Attempt.result_bind, Log.Attempt.result_mk, Log.Attempt.result_pure]
  cases (task.run { recorded := [], pending := [entry] }).value <;> rfl

theorem discover_outcome (task : Task) (entry : Nat) :
    (∃ found, task.Traceable entry ∧ task.Traces entry found ∧
      (task.discover entry).result = .ok found) ∨
    ∃ failure, task.Explains entry failure ∧ (task.discover entry).result = .error failure := by
  rw [result_discover]
  rcases run_outcome (Invariant.start task entry) with ⟨final, inv, done, ended⟩ | failed
  · have traces := traces_of_invariant inv done
    refine .inl ⟨_, traces.traceable ?_, traces, by rw [ended]; rfl⟩
    rw [List.length_mergeSort]
    exact inv.bounded
  · obtain ⟨failure, explains, ended⟩ := failed
    exact .inr ⟨failure, explains, by rw [ended]; rfl⟩

theorem Explains.not_traceable {failure : ParseFailure} (explains : task.Explains entry failure) :
    ¬ task.Traceable entry := by
  intro traceable
  cases failure with
  | outsideSegment address name =>
    obtain ⟨_, reaches, outside⟩ := explains
    rw [traceable.inside address reaches] at outside
    cases outside
  | undecodable error =>
    obtain ⟨address, window, reaches, found, failed⟩ := explains
    obtain ⟨decoding, window', found', decoded⟩ := traceable.decodes address reaches
    obtain rfl := Option.some.inj (found.symm.trans found')
    rw [failed] at decoded
    cases decoded
  | tooManyInstructions limit =>
    obtain ⟨rfl, many⟩ := explains
    have fewer : { address | task.Reaches entry address ∧ ∃ i, task.Decodes address i } ⊆
        task.reach entry := fun address member => member.1
    exact absurd (many.trans_le (Set.encard_le_encard fewer)) (not_lt.mpr traceable.few)
  | overlap => exact explains

/-- The traversal succeeds just when it can, with the one row of what control reaches. -/
theorem discover_eq_ok_iff {found : List (Nat × Decoding)} :
    (task.discover entry).result = .ok found ↔
      task.Traceable entry ∧ task.Traces entry found := by
  rcases discover_outcome task entry with ⟨row, traceable, traces, ended⟩ | failed
  · rw [ended]
    constructor
    · intro same
      obtain rfl := Except.ok.inj same
      exact ⟨traceable, traces⟩
    · rintro ⟨_, others⟩
      rw [traces.unique others]
  · obtain ⟨failure, explains, ended⟩ := failed
    rw [ended]
    constructor
    · intro same
      cases same
    · rintro ⟨traceable, _⟩
      exact absurd traceable explains.not_traceable

theorem exists_discover_eq_ok_iff :
    (∃ found, (task.discover entry).result = .ok found) ↔ task.Traceable entry := by
  constructor
  · rintro ⟨found, ended⟩
    exact (discover_eq_ok_iff.mp ended).1
  · intro traceable
    rcases discover_outcome task entry with ⟨found, _, _, ended⟩ | ⟨failure, explains, _⟩
    · exact ⟨found, ended⟩
    · exact absurd traceable explains.not_traceable

theorem explains_of_discover_eq_error {failure : ParseFailure}
    (ended : (task.discover entry).result = .error failure) : task.Explains entry failure := by
  rcases discover_outcome task entry with ⟨found, _, _, other⟩ | ⟨other, explains, ended'⟩
  · rw [ended] at other
    cases other
  · rw [ended] at ended'
    exact Except.error.inj ended' ▸ explains

theorem discover_withLimit {found : List (Nat × Decoding)} {limit : Nat}
    (ended : (task.discover entry).result = .ok found) (more : task.limit ≤ limit) :
    ({ task with limit }.discover entry).result = .ok found := by
  obtain ⟨traceable, traces⟩ := discover_eq_ok_iff.mp ended
  have same : ∀ address, { task with limit }.Reaches entry address ↔ task.Reaches entry address :=
    fun address => ⟨fun h => h.withLimit task.limit, fun h => h.withLimit limit⟩
  refine discover_eq_ok_iff.mpr ⟨⟨?_, ?_, ?_⟩, traces.ascending, ?_, traces.decodes⟩
  · exact fun address reaches => traceable.inside address ((same address).mp reaches)
  · exact fun address reaches => traceable.decodes address ((same address).mp reaches)
  · have reach : { task with limit }.reach entry = task.reach entry := Set.ext same
    rw [reach]
    exact traceable.few.trans (by exact_mod_cast more)
  · exact fun address => (traces.addresses address).trans (same address).symm

end Landmark.Discovery.Task
