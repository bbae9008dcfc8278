import Landmark.Proofs.Routine.Reconstruction

/-! # Straight code

In straight code each instruction runs on to the one behind it, up to a last one that does
not. Where no branch leads out of it, a traversal finds it as it stands, in whatever order
the targets of its branches are looked at, and there is no room between the instructions.
-/

namespace Landmark.Discovery.Task

variable {task : Task} {entry start : Nat} {row : List (Nat × Decoding)}

/-- Instructions one right behind another, of which only the last does not run on. -/
inductive Straight (task : Task) : Nat → List (Nat × Decoding) → Prop where
  | last {decoding : Decoding} {start : Nat} :
      task.Decodes start decoding → decoding.address = start → 0 < decoding.length →
      decoding.category.fallsThrough = false → Straight task start [(start, decoding)]
  | onward {decoding : Decoding} {start : Nat} {rest : List (Nat × Decoding)} :
      task.Decodes start decoding → decoding.address = start → 0 < decoding.length →
      decoding.category.fallsThrough = true → Straight task decoding.stop rest →
      Straight task start ((start, decoding) :: rest)

/-- No branch leads out of a row of instructions. -/
def Inward (task : Task) (row : List (Nat × Decoding)) : Prop :=
  ∀ address decoding window target, (address, decoding) ∈ row →
    task.window? address = some window → decoding.category.branches →
    task.disassembler.target? address window = some target → target ∈ row.map Prod.fst

namespace Straight

theorem start_mem (straight : task.Straight start row) : start ∈ row.map Prod.fst := by
  cases straight with
  | last => exact List.mem_cons_self
  | onward => exact List.mem_cons_self

theorem decodes {address : Nat} {decoding : Decoding} (straight : task.Straight start row)
    (member : (address, decoding) ∈ row) : task.Decodes address decoding := by
  induction straight with
  | last decodes =>
    cases List.mem_singleton.mp member
    exact decodes
  | onward decodes _ _ _ _ ih =>
    cases List.mem_cons.mp member with
    | inl here =>
      cases here
      exact decodes
    | inr later => exact ih later

theorem start_le {entry : Nat × Decoding} (straight : task.Straight start row)
    (member : entry ∈ row) : start ≤ entry.1 := by
  induction straight with
  | last =>
    cases List.mem_singleton.mp member
    exact Nat.le_refl _
  | @onward decoding start rest _ address _ _ _ ih =>
    cases List.mem_cons.mp member with
    | inl here =>
      cases here
      exact Nat.le_refl _
    | inr later =>
      have stop : start ≤ decoding.stop := address ▸ Nat.le_add_right _ _
      exact Nat.le_trans stop (ih later)

theorem ascending (straight : task.Straight start row) : row.Pairwise fun a b => a.1 < b.1 := by
  induction straight with
  | last => exact List.pairwise_singleton _ _
  | onward _ address positive _ later ih =>
    refine List.pairwise_cons.mpr ⟨fun other among => ?_, ih⟩
    have stop := later.start_le among
    unfold Decoding.stop at stop
    dsimp only
    omega

/-- What runs on runs on to an instruction of the row. -/
theorem stop_mem {address : Nat} {decoding : Decoding} (straight : task.Straight start row)
    (member : (address, decoding) ∈ row) (runsOn : decoding.category.fallsThrough = true) :
    decoding.stop ∈ row.map Prod.fst := by
  induction straight with
  | last _ _ _ ends =>
    cases List.mem_singleton.mp member
    rw [ends] at runsOn
    cases runsOn
  | onward _ _ _ _ later ih =>
    cases List.mem_cons.mp member with
    | inl here =>
      cases here
      exact List.mem_cons_of_mem _ later.start_mem
    | inr among => exact List.mem_cons_of_mem _ (ih among)

theorem reaches_of_mem {address : Nat} (straight : task.Straight start row)
    (reached : task.Reaches entry start) (member : address ∈ row.map Prod.fst) :
    task.Reaches entry address := by
  induction straight with
  | last =>
    cases List.mem_singleton.mp member
    exact reached
  | onward decodes _ _ runsOn _ ih =>
    cases List.mem_cons.mp member with
    | inl here =>
      cases here
      exact reached
    | inr later => exact ih (reached.tail (.onward decodes runsOn)) later

/-- Control that is in the row stays there. -/
theorem flows_mem {address next : Nat} (straight : task.Straight start row)
    (inward : task.Inward row) (member : address ∈ row.map Prod.fst)
    (flows : task.Flows address next) : next ∈ row.map Prod.fst := by
  obtain ⟨⟨_, decoding⟩, here, rfl⟩ := List.mem_map.mp member
  have decodes := straight.decodes here
  cases flows with
  | onward decodes' runsOn =>
    obtain rfl := decodes.unique decodes'
    exact straight.stop_mem here runsOn
  | branch found decoded jumps target =>
    obtain rfl := decodes.unique ⟨_, found, decoded⟩
    exact inward _ _ _ _ here found jumps target

theorem traces (straight : task.Straight start row) (inward : task.Inward row) :
    task.Traces start row where
  ascending := straight.ascending
  addresses := by
    intro address
    constructor
    · exact straight.reaches_of_mem .refl
    -- The row holds the start and is closed under flows, so it holds all that is reached.
    · intro reaches
      induction reaches with
      | refl => exact straight.start_mem
      | tail _ flows ih => exact straight.flows_mem inward ih flows
  decodes := fun _ _ member => straight.decodes member

theorem isChain (straight : task.Straight start row) :
    (row.map Prod.snd).IsChain fun a b => a.stop = b.address := by
  induction straight with
  | last => exact .singleton _
  | onward _ _ _ _ later ih =>
    cases later with
    | last _ address => exact .cons_cons address.symm (.singleton _)
    | onward _ address => exact .cons_cons address.symm ih

theorem rooms_of_isChain {row : List Decoding} (chain : row.IsChain fun a b => a.stop = b.address) :
    Routine.rooms row = [] := by
  induction chain with
  | nil => rfl
  | singleton => rfl
  | cons_cons next _ ih =>
    rw [Routine.rooms, next, Nat.sub_self]
    exact ih

/-- Nothing is wrong with straight code but that there can be too much of it. -/
theorem failure_eq {failure : ParseFailure} (straight : task.Straight start row)
    (inward : task.Inward row) (explains : task.Explains start failure) :
    failure = .tooManyInstructions task.limit := by
  have traces := straight.traces inward
  have decodes : ∀ address, task.Reaches start address →
      ∃ decoding, task.Decodes address decoding := by
    intro address reaches
    obtain ⟨⟨_, decoding⟩, member, rfl⟩ := List.mem_map.mp ((traces.addresses address).mpr reaches)
    exact ⟨decoding, straight.decodes member⟩
  cases failure with
  | outsideSegment address name =>
    obtain ⟨_, reaches, outside⟩ := explains
    obtain ⟨decoding, found⟩ := decodes address reaches
    rw [found.inside] at outside
    cases outside
  | undecodable error =>
    obtain ⟨address, window, reaches, found, failed⟩ := explains
    obtain ⟨decoding, window', found', decoded⟩ := decodes address reaches
    obtain rfl := Option.some.inj (found.symm.trans found')
    rw [failed] at decoded
    cases decoded
  | tooManyInstructions limit => rw [explains.1]
  | overlap => exact explains.elim

/-- Straight code is found as it stands where it is within the limit, and is too much where it is
not. -/
theorem result_parse (straight : task.Straight start row) (inward : task.Inward row)
    (located : task.disassembler.Located) :
    (row.length ≤ task.limit → (task.parse start).result = .ok (task.routineOf start row)) ∧
    (task.limit < row.length →
      (task.parse start).result = .error (.tooManyInstructions task.limit)) := by
  have traces := straight.traces inward
  constructor
  · intro few
    have chain := straight.isChain.imp fun a b => Nat.le_of_eq
    exact (parse_eq_ok_iff located).mpr
      ⟨traces.traceable few, (traces.isChain_iff_apart located).mp chain, row, traces, rfl⟩
  · intro many
    rw [Task.result_parse]
    rcases discover_outcome task start with
      ⟨found, traceable, _, _⟩ | ⟨failure, explains, ended⟩
    · have distinct : (row.map Prod.fst).Nodup :=
        List.pairwise_map.mpr (traces.ascending.imp Nat.ne_of_lt)
      have all := Invariant.length_le_encard (task.reach start) distinct
        fun address member => (traces.addresses address).mp member
      have few := all.trans traceable.few
      rw [List.length_map] at few
      exact absurd (by exact_mod_cast few) (Nat.not_le.mpr many)
    · rw [ended, straight.failure_eq inward explains]
      rfl

theorem gaps_routineOf (straight : task.Straight start row) :
    (task.routineOf start row).gaps = 0 := by
  rw [routineOf, rooms_of_isChain straight.isChain, List.length_nil]

theorem start_routineOf (straight : task.Straight start row) :
    (task.routineOf start row).start = start := by
  cases straight with
  | last _ address => exact address
  | onward _ address => exact address

end Straight

end Landmark.Discovery.Task
