import Landmark.Proofs.Log.Attempt
import Landmark.Routine.Basic
import Mathlib.Data.Set.Card
import Mathlib.Logic.Relation

/-! # The flow of control

What a traversal is to find, said without a stack: an edge leads from an instruction to
each address that control can go to next, and an address is reached when a path of
edges leads there from the entry. Beside it stand the cases of a single step and what
every step keeps: recorded and pending addresses together are closed under the edges.
-/

namespace Landmark.Discovery

namespace Task

variable (task : Task)

/-- The address lies strictly inside the segment, and the bytes there form this instruction. -/
def Decodes (address : Nat) (decoding : Decoding) : Prop :=
  ∃ window, task.window? address = some window ∧
    task.disassembler.decode address window = .ok decoding

/-- An edge of the flow of control, from the instruction at an address. -/
inductive Flows (address : Nat) : Nat → Prop where
  | onward {decoding : Decoding} :
      task.Decodes address decoding → decoding.category.fallsThrough →
      Flows address decoding.stop
  | branch {window : Bytes} {decoding : Decoding} {target : Nat} :
      task.window? address = some window →
      task.disassembler.decode address window = .ok decoding →
      decoding.category.branches → task.disassembler.target? address window = some target →
      Flows address target

/-- Control reaches an address from the entry. -/
def Reaches (entry : Nat) : Nat → Prop := Relation.ReflTransGen task.Flows entry

def reach (entry : Nat) : Set Nat := { address | task.Reaches entry address }

/-- What is true of the traversal when it fails for the given reason. -/
def Explains (entry : Nat) : ParseFailure → Prop
  | .outsideSegment address name =>
    name = task.segment.name ∧ task.Reaches entry address ∧ task.segment.contains address = false
  | .undecodable error =>
    ∃ address window, task.Reaches entry address ∧ task.window? address = some window ∧
      task.disassembler.decode address window = .error error
  | .tooManyInstructions limit =>
    limit = task.limit ∧
      limit < { address | task.Reaches entry address ∧ ∃ i, task.Decodes address i }.encard
  | .overlap _ _ => False

variable {task}

theorem window?_eq_none_iff {address : Nat} :
    task.window? address = none ↔ task.segment.contains address = false := by
  unfold window?
  split
  · next inside =>
    have between := inside
    simp only [Segment.contains, Bool.and_eq_true, decide_eq_true_eq] at between
    have started : task.segment.base ≤ address ∧ address < task.segment.stop := by
      simp only [Segment.stop]
      omega
    simp [inside, Segment.bytesFrom?, Segment.offset?, started]
  · next outside => simpa using outside

theorem Decodes.inside {address : Nat} {decoding : Decoding}
    (decodes : task.Decodes address decoding) : task.segment.contains address := by
  obtain ⟨window, found, _⟩ := decodes
  cases inside : task.segment.contains address with
  | true => rfl
  | false => rw [window?_eq_none_iff.mpr inside] at found; cases found

theorem Decodes.unique {address : Nat} {first second : Decoding}
    (h₁ : task.Decodes address first) (h₂ : task.Decodes address second) : first = second := by
  obtain ⟨window₁, found₁, decoded₁⟩ := h₁
  obtain ⟨window₂, found₂, decoded₂⟩ := h₂
  obtain rfl : window₁ = window₂ := Option.some.inj (found₁.symm.trans found₂)
  exact Except.ok.inj (decoded₁.symm.trans decoded₂)

/-- The edges from an instruction are those that a step puts on the stack. -/
theorem flows_iff {address next : Nat} {window : Bytes} {decoding : Decoding}
    (found : task.window? address = some window)
    (decoded : task.disassembler.decode address window = .ok decoding) :
    task.Flows address next ↔
      next ∈ following decoding ++ task.branches address window decoding := by
  constructor
  · intro flows
    cases flows with
    | onward decodes runsOn =>
      obtain rfl := decodes.unique ⟨window, found, decoded⟩
      simp [following, runsOn]
    | branch found' decoded' jumps target =>
      obtain rfl := Option.some.inj (found.symm.trans found')
      obtain rfl := Except.ok.inj (decoded.symm.trans decoded')
      simp [branches, jumps, target]
  · intro member
    rcases List.mem_append.mp member with runsOn | jumps
    · simp only [following, List.mem_ite_nil_right, List.mem_singleton] at runsOn
      obtain ⟨runsOn, rfl⟩ := runsOn
      exact .onward ⟨window, found, decoded⟩ runsOn
    · simp only [branches, List.mem_ite_nil_right, Option.mem_toList] at jumps
      exact .branch found decoded jumps.1 jumps.2

theorem Reaches.withLimit {entry address : Nat} (reaches : task.Reaches entry address)
    (limit : Nat) : { task with limit }.Reaches entry address := by
  refine Relation.ReflTransGen.mono ?_ entry address reaches
  intro source next flows
  cases flows with
  | onward decodes runsOn => exact .onward decodes runsOn
  | branch found decoded jumps target => exact .branch found decoded jumps target

end Task

namespace State

def Knows (state : State) (address : Nat) : Prop :=
  address ∈ state.recorded.map Prod.fst ∨ address ∈ state.pending

theorem has_iff {state : State} {address : Nat} :
    state.has address ↔ address ∈ state.recorded.map Prod.fst := by
  simp [has]

end State

namespace Task

variable (task : Task)

/-- Everything that a step can do. -/
inductive Moves (state : State) : Step → Prop where
  | finished : state.pending = [] → Moves state .finished
  | skipped {address : Nat} {rest : List Nat} :
      state.pending = address :: rest → state.has address →
      Moves state (.advanced { state with pending := rest } [])
  | outside {address : Nat} {rest : List Nat} :
      state.pending = address :: rest → state.has address = false →
      task.window? address = none →
      Moves state (.failed (.outsideSegment address task.segment.name))
  | undecodable {address : Nat} {rest : List Nat} {window : Bytes} {error : DecodeError} :
      state.pending = address :: rest → state.has address = false →
      task.window? address = some window →
      task.disassembler.decode address window = .error error →
      Moves state (.failed (.undecodable error))
  | full {address : Nat} {rest : List Nat} {window : Bytes} {decoding : Decoding} :
      state.pending = address :: rest → state.has address = false →
      task.window? address = some window →
      task.disassembler.decode address window = .ok decoding →
      task.limit ≤ state.recorded.length →
      Moves state (.failed (.tooManyInstructions task.limit))
  | recorded {address : Nat} {rest : List Nat} {window : Bytes} {decoding : Decoding} :
      state.pending = address :: rest → state.has address = false →
      task.window? address = some window →
      task.disassembler.decode address window = .ok decoding →
      state.recorded.length < task.limit →
      Moves state (.advanced {
        recorded := (address, decoding) :: state.recorded
        pending := following decoding ++ task.branches address window decoding ++ rest }
        (task.reports address window decoding))

variable {task}

theorem step_moves (state : State) : task.Moves state (task.step state) := by
  unfold step
  split
  · next none => exact .finished none
  · next address rest pending =>
    split
    · next seen => exact .skipped pending seen
    · next fresh =>
      have fresh : state.has address = false := by simpa using fresh
      split
      · next outside => exact .outside pending fresh outside
      · next window found =>
        split
        · next error failed => exact .undecodable pending fresh found failed
        · next decoding decoded =>
          split
          · next full => exact .full pending fresh found decoded full
          · next room => exact .recorded pending fresh found decoded (by omega)

end Task

/-- What every step keeps. -/
structure Invariant (task : Task) (entry : Nat) (state : State) : Prop where
  recorded : ∀ {address decoding}, (address, decoding) ∈ state.recorded →
    task.Reaches entry address ∧ task.Decodes address decoding
  pending : ∀ {address}, address ∈ state.pending → task.Reaches entry address
  distinct : (state.recorded.map Prod.fst).Nodup
  bounded : state.recorded.length ≤ task.limit
  seeded : state.Knows entry
  closed : ∀ {address next}, address ∈ state.recorded.map Prod.fst →
    task.Flows address next → state.Knows next

namespace Invariant

variable {task : Task} {entry : Nat} {state : State}

theorem start (task : Task) (entry : Nat) :
    Invariant task entry { recorded := [], pending := [entry] } where
  recorded := by simp
  pending := by
    intro address member
    obtain rfl : address = entry := by simpa using member
    exact .refl
  distinct := List.nodup_nil
  bounded := Nat.zero_le _
  seeded := .inr List.mem_cons_self
  closed := by simp

theorem skip {address : Nat} {rest : List Nat} (inv : Invariant task entry state)
    (pending : state.pending = address :: rest) (seen : state.has address) :
    Invariant task entry { state with pending := rest } := by
  have known : ∀ {other}, state.Knows other →
      ({ state with pending := rest } : State).Knows other := by
    intro other knows
    rcases knows with recorded | waiting
    · exact .inl recorded
    · rw [pending] at waiting
      rcases List.mem_cons.mp waiting with rfl | later
      · exact .inl (State.has_iff.mp seen)
      · exact .inr later
  exact
    { recorded := inv.recorded
      pending := fun member => inv.pending (by rw [pending]; exact List.mem_cons_of_mem _ member)
      distinct := inv.distinct
      bounded := inv.bounded
      seeded := known inv.seeded
      closed := fun member flows => known (inv.closed member flows) }

theorem record {address : Nat} {rest : List Nat} {window : Bytes} {decoding : Decoding}
    (inv : Invariant task entry state) (pending : state.pending = address :: rest)
    (fresh : state.has address = false) (found : task.window? address = some window)
    (decoded : task.disassembler.decode address window = .ok decoding)
    (room : state.recorded.length < task.limit) :
    Invariant task entry {
      recorded := (address, decoding) :: state.recorded
      pending := Task.following decoding ++ task.branches address window decoding ++ rest } := by
  have reached : task.Reaches entry address := inv.pending (by simp [pending])
  have known : ∀ {other}, state.Knows other → State.Knows {
      recorded := (address, decoding) :: state.recorded
      pending := Task.following decoding ++ task.branches address window decoding ++ rest }
      other := by
    intro other knows
    rcases knows with recorded | waiting
    · exact .inl (List.mem_cons_of_mem _ recorded)
    · rw [pending] at waiting
      rcases List.mem_cons.mp waiting with rfl | later
      · exact .inl List.mem_cons_self
      · exact .inr (List.mem_append_right _ later)
  refine
    { recorded := ?_
      pending := ?_
      distinct := ?_
      bounded := room
      seeded := known inv.seeded
      closed := ?_ }
  · intro other i member
    rcases List.mem_cons.mp member with same | earlier
    · cases same
      exact ⟨reached, window, found, decoded⟩
    · exact inv.recorded earlier
  · intro other member
    rcases List.mem_append.mp member with edge | later
    · exact reached.tail ((Task.flows_iff found decoded).mpr edge)
    · exact inv.pending (by rw [pending]; exact List.mem_cons_of_mem _ later)
  · refine List.nodup_cons.mpr ⟨?_, inv.distinct⟩
    intro seen
    rw [State.has_iff.mpr seen] at fresh
    cases fresh
  -- The new address owes its edges, and all of them were just put on the stack.
  · intro source next member flows
    rcases List.mem_cons.mp member with rfl | earlier
    · exact .inr (List.mem_append_left _ ((Task.flows_iff found decoded).mp flows))
    · exact known (inv.closed earlier flows)

theorem step {next : State} {events : List Log.Event} (inv : Invariant task entry state)
    (stepped : task.step state = .advanced next events) : Invariant task entry next := by
  have moves := task.step_moves state
  rw [stepped] at moves
  cases moves with
  | skipped pending seen => exact inv.skip pending seen
  | recorded pending fresh found decoded room => exact inv.record pending fresh found decoded room

theorem length_le_encard (reached : Set Nat) {addresses : List Nat} (distinct : addresses.Nodup)
    (all : ∀ address ∈ addresses, address ∈ reached) :
    (addresses.length : ℕ∞) ≤ reached.encard := by
  rw [← List.toFinset_card_of_nodup distinct, ← Set.encard_coe_eq_coe_finsetCard]
  exact Set.encard_le_encard (fun address member => all address (by simpa using member))

theorem explains {failure : ParseFailure} (inv : Invariant task entry state)
    (stepped : task.step state = .failed failure) : task.Explains entry failure := by
  have moves := task.step_moves state
  rw [stepped] at moves
  cases moves with
  | outside pending _ outside =>
    exact ⟨rfl, inv.pending (by simp [pending]), Task.window?_eq_none_iff.mp outside⟩
  | undecodable pending _ found failed =>
    exact ⟨_, _, inv.pending (by simp [pending]), found, failed⟩
  | @full address rest window decoding pending fresh found decoded full =>
    refine ⟨rfl, ?_⟩
    have distinct : (address :: state.recorded.map Prod.fst).Nodup := by
      refine List.nodup_cons.mpr ⟨?_, inv.distinct⟩
      intro seen
      rw [State.has_iff.mpr seen] at fresh
      cases fresh
    have many := length_le_encard { a | task.Reaches entry a ∧ ∃ i, task.Decodes a i } distinct (by
      intro other member
      rcases List.mem_cons.mp member with rfl | earlier
      · exact ⟨inv.pending (by simp [pending]), decoding, window, found, decoded⟩
      · obtain ⟨⟨_, i⟩, recorded, rfl⟩ := List.mem_map.mp earlier
        exact ⟨(inv.recorded recorded).1, i, (inv.recorded recorded).2⟩)
    refine lt_of_lt_of_le ?_ many
    simp only [List.length_cons, List.length_map]
    exact_mod_cast Nat.lt_succ_of_le full

/-- With an empty stack everything that control reaches is recorded. -/
theorem complete {address : Nat} (inv : Invariant task entry state) (done : state.pending = [])
    (reaches : task.Reaches entry address) : address ∈ state.recorded.map Prod.fst := by
  have drop : ∀ {other}, state.Knows other → other ∈ state.recorded.map Prod.fst := by
    intro other knows
    rcases knows with recorded | waiting
    · exact recorded
    · rw [done] at waiting
      cases waiting
  induction reaches with
  | refl => exact drop inv.seeded
  | tail _ flows ih => exact drop (inv.closed ih flows)

end Invariant

end Landmark.Discovery
