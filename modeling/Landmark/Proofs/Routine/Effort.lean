import Landmark.Proofs.Routine.Reachability

/-! # What a traversal costs

A traversal is run here the way a machine runs it: an outer loop takes starts off a stack, an
inner loop decodes onward from each, and the disassembler is asked anew every time and may
answer from memory as it likes. A turn of the inner loop records one more instruction or is the
last, so both loops end whatever the answers are, and the limit on instructions is also one
on the questions and on what the stack receives.
-/

namespace Landmark.Discovery

/-- A disassembler whose answers may depend on all that it was asked before. Nothing is asked of
them: an instruction may have no bytes and say that it stands anywhere. -/
structure Informant (σ : Type) where
  maxLength : σ → Nat × σ
  decode : Nat → Bytes → σ → Except DecodeError Decoding × σ
  target? : Nat → Bytes → σ → Option Nat × σ

/-- A disassembler that goes by the question alone. -/
def Informant.forgetful (disassembler : Disassembler) : Informant Unit where
  maxLength memory := (disassembler.maxLength, memory)
  decode address bytes memory := (disassembler.decode address bytes, memory)
  target? address bytes memory := (disassembler.target? address bytes, memory)

/-- A traversal under way. -/
structure Course (σ : Type) where
  /-- The instructions recorded, each with the address it was found at, the latest first. -/
  recorded : List (Nat × Decoding)
  /-- Where the inner loop stands, while it is run. -/
  current : Option Nat
  /-- The starts still to be taken, the next first. -/
  pending : List Nat
  memory : σ
  /-- The addresses at which decoding was tried, the latest first. -/
  asked : List Nat
  /-- The targets that the stack received, the latest first. -/
  received : List Nat

/-- What one turn of a loop leads to. -/
inductive Turn (σ : Type) where
  | advanced (course : Course σ)
  | ended (outcome : Except ParseFailure (List (Nat × Decoding))) (course : Course σ)

/-- What such a traversal is about. -/
structure Survey (σ : Type) where
  segment : Segment
  informant : Informant σ
  limit : Nat

variable {σ : Type}

namespace Course

/-- The traversal before its first turn. -/
def start (entry : Nat) (memory : σ) : Course σ :=
  { recorded := [], current := none, pending := [entry], memory, asked := [], received := [] }

/-- Both loops as one stack, with the inner loop on top. -/
def state (course : Course σ) : State :=
  { recorded := course.recorded, pending := course.current.toList ++ course.pending }

end Course

namespace Survey

/-- The bytes that an instruction at an address may take. How many these are is only asked where
the address is strictly inside the segment. -/
def window? (survey : Survey σ) (address : Nat) (memory : σ) : Option Bytes × σ :=
  if survey.segment.contains address then
    let (length, memory) := survey.informant.maxLength memory
    ((survey.segment.bytesFrom? address).map fun bytes => bytes.take length, memory)
  else (none, memory)

/-- The targets of an instruction. -/
def branches (survey : Survey σ) (address : Nat) (window : Bytes) (decoding : Decoding)
    (memory : σ) : List Nat × σ :=
  if decoding.category.branches then
    let (target, memory) := survey.informant.target? address window memory
    (target.toList, memory)
  else ([], memory)

/-- One turn of the inner loop while it is run, and else of the outer one. -/
def turn (survey : Survey σ) (course : Course σ) : Turn σ :=
  match course.current with
  | none =>
    match course.pending with
    | [] => .ended (.ok course.recorded) course
    | start :: rest => .advanced { course with current := some start, pending := rest }
  | some address =>
    if course.state.has address then .advanced { course with current := none }
    else
      match survey.window? address course.memory with
      | (none, memory) =>
        .ended (.error (.outsideSegment address survey.segment.name)) { course with memory }
      | (some window, memory) =>
        match survey.informant.decode address window memory with
        | (.error error, memory) =>
          .ended (.error (.undecodable error))
            { course with memory, asked := address :: course.asked }
        | (.ok decoding, memory) =>
          if survey.limit ≤ course.recorded.length then
            .ended (.error (.tooManyInstructions survey.limit))
              { course with memory, asked := address :: course.asked }
          else
            let (targets, memory) := survey.branches address window decoding memory
            .advanced {
              recorded := (address, decoding) :: course.recorded
              current := (Task.following decoding).head?
              pending := targets ++ course.pending
              memory
              asked := address :: course.asked
              received := targets ++ course.received }

/-- The courses of a traversal, each with the number of turns up to it. -/
inductive Passes (survey : Survey σ) (start : Course σ) : Nat → Course σ → Prop where
  | start : Passes survey start 0 start
  | turn {count : Nat} {course next : Course σ} : Passes survey start count course →
      survey.turn course = .advanced next → Passes survey start (count + 1) next

/-- A traversal ends behind some turns with an outcome, and this is what it leaves. -/
def Ends (survey : Survey σ) (start : Course σ) (count : Nat)
    (outcome : Except ParseFailure (List (Nat × Decoding))) (left : Course σ) : Prop :=
  ∃ course, survey.Passes start count course ∧ survey.turn course = .ended outcome left

/-- Everything that a turn can do, as far as it costs anything. -/
inductive Does (survey : Survey σ) (course : Course σ) : Turn σ → Prop where
  | finished : course.current = none → course.pending = [] →
      Does survey course (.ended (.ok course.recorded) course)
  | started {start : Nat} {rest : List Nat} : course.current = none →
      course.pending = start :: rest →
      Does survey course (.advanced { course with current := some start, pending := rest })
  | closed {address : Nat} : course.current = some address →
      Does survey course (.advanced { course with current := none })
  | outside {failure : ParseFailure} {memory : σ} :
      Does survey course (.ended (.error failure) { course with memory })
  | refused {address : Nat} {failure : ParseFailure} {memory : σ} :
      course.state.has address = false →
      Does survey course
        (.ended (.error failure) { course with memory, asked := address :: course.asked })
  | recorded {address : Nat} {decoding : Decoding} {targets : List Nat} {memory : σ} :
      course.current = some address → course.state.has address = false →
      course.recorded.length < survey.limit → targets.length ≤ 1 →
      Does survey course (.advanced {
        recorded := (address, decoding) :: course.recorded
        current := (Task.following decoding).head?
        pending := targets ++ course.pending
        memory
        asked := address :: course.asked
        received := targets ++ course.received })

variable {survey : Survey σ} {first course next left : Course σ} {count : Nat}
  {outcome : Except ParseFailure (List (Nat × Decoding))}

theorem length_branches_le (address : Nat) (window : Bytes) (decoding : Decoding) (memory : σ) :
    (survey.branches address window decoding memory).1.length ≤ 1 := by
  unfold branches
  split
  · cases (survey.informant.target? address window memory).1 <;> simp
  · simp

theorem turn_does (survey : Survey σ) (course : Course σ) :
    survey.Does course (survey.turn course) := by
  unfold turn
  split
  · next idle =>
    split
    · next empty => exact .finished idle empty
    · next waiting => exact .started idle waiting
  · next address stands =>
    split
    · exact .closed stands
    · next fresh =>
      have fresh : course.state.has address = false := by simpa using fresh
      split
      · exact .outside
      · split
        · exact .refused fresh
        · split
          · exact .refused fresh
          · next room =>
            exact .recorded stands fresh (Nat.lt_of_not_le room) (length_branches_le _ _ _ _)

/-! ## The end -/

/-- How many turns a traversal can still take. -/
def potential (survey : Survey σ) (course : Course σ) : Nat :=
  3 * (survey.limit - course.recorded.length) + 2 * course.pending.length +
    course.current.toList.length

theorem potential_decreases (advances : survey.turn course = .advanced next) :
    survey.potential next < survey.potential course := by
  have does := survey.turn_does course
  rw [advances] at does
  cases does with
  | started idle waiting => simp [potential, idle, waiting]; omega
  | closed stands => simp [potential, stands]
  | @recorded address decoding targets memory stands fresh room few =>
    -- One instruction less pays for a start on the stack, for taking it and for the turn.
    have onward : (Task.following decoding).head?.toList.length ≤ 1 := by
      cases (Task.following decoding).head? <;> simp
    simp only [potential, stands, List.length_cons, List.length_append, Option.toList_some,
      List.length_nil]
    omega

theorem Passes.count_le (passes : survey.Passes first count course) :
    count + survey.potential course ≤ survey.potential first := by
  induction passes with
  | start => simp
  | turn _ advances ih =>
    have less := potential_decreases advances
    omega

theorem Passes.exists_ends (passes : survey.Passes first count course) :
    ∃ count outcome left, survey.Ends first count outcome left := by
  induction turns : survey.potential course using Nat.strong_induction_on
      generalizing count course with
  | _ potential ih =>
    cases turned : survey.turn course with
    | ended outcome left => exact ⟨count, outcome, left, course, passes, turned⟩
    | advanced next =>
      exact ih _ (turns ▸ potential_decreases turned) (passes.turn turned) rfl

/-! ## The cost -/

/-- What was spent so far keeps the limit. -/
structure Spends (limit : Nat) (course : Course σ) : Prop where
  recorded : course.recorded.length ≤ limit
  distinct : (course.recorded.map Prod.fst).Nodup
  /-- Nothing is asked twice, be it answered or not. -/
  once : course.asked.Nodup
  asked : course.asked.length ≤ limit + 1
  received : course.received.length ≤ limit

/-- What every turn keeps: as long as it goes on, each question was answered by an instruction. -/
structure Thrifty (limit : Nat) (course : Course σ) : Prop where
  recorded : course.recorded.length ≤ limit
  distinct : (course.recorded.map Prod.fst).Nodup
  asked : course.asked = course.recorded.map Prod.fst
  received : course.received.length ≤ course.recorded.length

namespace Thrifty

theorem start (limit entry : Nat) (memory : σ) : Thrifty limit (.start entry memory) := by
  constructor <;> simp [Course.start]

theorem nodup_cons (thrifty : Thrifty survey.limit course) {address : Nat}
    (fresh : course.state.has address = false) :
    (address :: course.recorded.map Prod.fst).Nodup := by
  refine List.nodup_cons.mpr ⟨fun seen => ?_, thrifty.distinct⟩
  have has := State.has_iff.mpr (show address ∈ course.state.recorded.map Prod.fst from seen)
  simp [fresh] at has

theorem turn (thrifty : Thrifty survey.limit course)
    (advances : survey.turn course = .advanced next) : Thrifty survey.limit next := by
  have does := survey.turn_does course
  rw [advances] at does
  cases does with
  | started | closed =>
    exact ⟨thrifty.recorded, thrifty.distinct, thrifty.asked, thrifty.received⟩
  | recorded stands fresh room few =>
    have received := thrifty.received
    exact
      { recorded := room
        distinct := thrifty.nodup_cons fresh
        asked := by simp [thrifty.asked]
        received := by simp only [List.length_append, List.length_cons]; omega }

theorem passes (passes : survey.Passes first count course) (begun : Thrifty survey.limit first) :
    Thrifty survey.limit course := by
  induction passes with
  | start => exact begun
  | turn _ advances ih => exact ih.turn advances

theorem spends (thrifty : Thrifty survey.limit course) : Spends survey.limit course where
  recorded := thrifty.recorded
  distinct := thrifty.distinct
  once := thrifty.asked ▸ thrifty.distinct
  asked := by simpa [thrifty.asked] using Nat.le_succ_of_le thrifty.recorded
  received := thrifty.received.trans thrifty.recorded

/-- The last turn asks once more at most. -/
theorem spends_left (thrifty : Thrifty survey.limit course)
    (ended : survey.turn course = .ended outcome left) : Spends survey.limit left := by
  have does := survey.turn_does course
  rw [ended] at does
  have spends := thrifty.spends
  cases does with
  | finished => exact spends
  | outside => exact ⟨spends.recorded, spends.distinct, spends.once, spends.asked, spends.received⟩
  | refused fresh =>
    exact
      { recorded := spends.recorded
        distinct := spends.distinct
        once := by simpa only [thrifty.asked] using thrifty.nodup_cons fresh
        asked := by simpa [thrifty.asked] using thrifty.recorded
        received := spends.received }

end Thrifty

/-! ## The traversal itself -/

/-- The survey in which the disassembler of a traversal is asked. -/
def of (task : Task) : Survey Unit where
  segment := task.segment
  informant := .forgetful task.disassembler
  limit := task.limit

theorem window?_of (task : Task) (address : Nat) (memory : Unit) :
    (of task).window? address memory = (task.window? address, ()) := by
  unfold window? Task.window?
  change (if task.segment.contains address then _ else _) = _
  split <;> rfl

theorem branches_of (task : Task) (address : Nat) (window : Bytes) (decoding : Decoding)
    (memory : Unit) :
    (of task).branches address window decoding memory =
      (task.branches address window decoding, ()) := by
  unfold branches Task.branches
  split <;> rfl

theorem toList_head?_following (decoding : Decoding) :
    (Task.following decoding).head?.toList = Task.following decoding := by
  unfold Task.following
  split <;> rfl

/-- A turn leaves the outcome of the traversal as it is, or is the last and tells it. -/
theorem value_run_turn (task : Task) (course : Course Unit) :
    (task.run course.state).value = match (of task).turn course with
      | .advanced next => (task.run next.state).value
      | .ended outcome _ => outcome := by
  have decode : ∀ address window, (of task).informant.decode address window () =
      (task.disassembler.decode address window, ()) := fun _ _ => rfl
  have limit : (of task).limit = task.limit := rfl
  cases stands : course.current with
  | none =>
    cases waiting : course.pending with
    | nil => simp [Task.value_run, turn, Task.step, Course.state, stands, waiting]
    | cons start rest => simp [turn, Course.state, stands, waiting]
  | some address =>
    rw [Task.value_run]
    simp only [turn, Task.step, Course.state, stands, Option.toList_some, List.singleton_append,
      window?_of]
    cases State.has ⟨course.recorded, address :: course.pending⟩ address with
    | true => simp
    | false =>
      cases task.window? address with
      | none => rfl
      | some window =>
        simp only [decode, branches_of]
        cases task.disassembler.decode address window with
        | error error => rfl
        | ok decoding =>
          by_cases full : task.limit ≤ course.recorded.length
          · simp [limit, full]
          · simp [limit, full, toList_head?_following]

theorem Passes.value_run {task : Task} {first course : Course Unit}
    (passes : (of task).Passes first count course) :
    (task.run first.state).value = (task.run course.state).value := by
  induction passes with
  | start => rfl
  | turn _ advances ih => rw [ih, value_run_turn, advances]

theorem Ends.value_run {task : Task} {first left : Course Unit}
    (ends : (of task).Ends first count outcome left) :
    (task.run first.state).value = outcome := by
  obtain ⟨course, passes, ended⟩ := ends
  rw [passes.value_run, value_run_turn, ended]

/-- A traversal ends, and within its limit all along. -/
structure KeepsLimit (survey : Survey σ) (entry : Nat) (memory : σ) : Prop where
  ends : ∃ count outcome left, survey.Ends (.start entry memory) count outcome left
  /-- How many turns it can take is known beforehand. -/
  brief : ∀ count course, survey.Passes (.start entry memory) count course →
    count ≤ 3 * survey.limit + 2
  during : ∀ count course, survey.Passes (.start entry memory) count course →
    Spends survey.limit course
  after : ∀ count outcome left, survey.Ends (.start entry memory) count outcome left →
    Spends survey.limit left

theorem keepsLimit (survey : Survey σ) (entry : Nat) (memory : σ) :
    survey.KeepsLimit entry memory := by
  have begun := Thrifty.start survey.limit entry memory
  refine
    { ends := Passes.exists_ends .start
      brief := fun count course passes => ?_
      during := fun count course passes => (Thrifty.passes passes begun).spends
      after := ?_ }
  · have enough := passes.count_le
    simp [potential, Course.start] at enough
    omega
  · rintro count outcome left ⟨course, passes, ended⟩
    exact (Thrifty.passes passes begun).spends_left ended

end Survey

/-- **No disassembler keeps a traversal from ending**, or leads it beyond its limit. What the
traversal of a plain disassembler ends with is what is discovered. -/
theorem discover_keepsLimit (segment : Segment) (limit entry : Nat) :
    (∀ {σ : Type} (informant : Informant σ) (memory : σ),
      Survey.KeepsLimit { segment, informant, limit } entry memory) ∧
    ∀ disassembler : Disassembler, ∃ count outcome left,
      (Survey.of { segment, disassembler, limit }).Ends (.start entry ()) count outcome left ∧
      (Task.discover { segment, disassembler, limit } entry).result =
        outcome.map fun recorded => recorded.mergeSort fun a b => a.1 ≤ b.1 := by
  refine ⟨fun informant memory => Survey.keepsLimit _ entry memory, fun disassembler => ?_⟩
  obtain ⟨count, outcome, left, ends⟩ :=
    (Survey.keepsLimit (.of { segment, disassembler, limit }) entry ()).ends
  refine ⟨count, outcome, left, ends, ?_⟩
  rw [Task.result_discover, ← ends.value_run]
  rfl

end Landmark.Discovery
