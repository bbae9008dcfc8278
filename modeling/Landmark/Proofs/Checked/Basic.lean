import Landmark.Proofs.Log.Attempt
import Mathlib.Data.List.Basic

/-! # Arithmetic that can stop

Numbers are unbounded here, indexing answers with an option and taking bytes never
fails. On a machine addresses have 64 bits, and a sum that does not fit, a difference
below zero, an index or a slice behind the end and a division by zero all stop the
program, while a loop may go on for ever. A checked computation says so, and where it
agrees with an attempt nothing of the kind happens on the way.
-/

namespace Landmark

open Log

/-- What stops a program, or keeps it from stopping. -/
inductive Trap where
  | index
  | slice
  | underflow
  | overflow
  | division
  /-- A loop is not over when it has to be. -/
  | endless
  deriving DecidableEq

abbrev Checked (α : Type) := Except Trap α

/-- A checked computation that may also fail by itself. -/
abbrev Guarded (ε α : Type) := ExceptT ε Checked α

namespace Checked

/-- How many addresses there are. -/
def word : Nat := 0x10000000000000000

def add (a b : Nat) : Checked Nat := if a + b < word then .ok (a + b) else .error .overflow

def sub (a b : Nat) : Checked Nat := if b ≤ a then .ok (a - b) else .error .underflow

def rem (a b : Nat) : Checked Nat := if b = 0 then .error .division else .ok (a % b)

variable {α : Type}

def get (row : List α) (place : Nat) : Checked α :=
  match row[place]? with
  | some a => .ok a
  | none => .error .index

def front (row : List α) (count : Nat) : Checked (List α) :=
  if count ≤ row.length then .ok (row.take count) else .error .slice

def behind (row : List α) (count : Nat) : Checked (List α) :=
  if count ≤ row.length then .ok (row.drop count) else .error .slice

theorem add_eq {a b : Nat} (fits : a + b < word) : add a b = .ok (a + b) := if_pos fits

theorem eq_of_add {a b sum : Nat} (added : add a b = .ok sum) : sum = a + b := by
  unfold add at added
  split at added
  next => exact (Except.ok.inj added).symm
  next => cases added

theorem sub_eq {a b : Nat} (enough : b ≤ a) : sub a b = .ok (a - b) := if_pos enough

theorem rem_eq {a b : Nat} (some : b ≠ 0) : rem a b = .ok (a % b) := if_neg some

theorem get_eq {row : List α} {place : Nat} {a : α} (there : row[place]? = some a) :
    get row place = .ok a := by
  rw [get, there]

theorem front_eq {row : List α} {count : Nat} (enough : count ≤ row.length) :
    front row count = .ok (row.take count) := if_pos enough

theorem behind_eq {row : List α} {count : Nat} (enough : count ≤ row.length) :
    behind row count = .ok (row.drop count) := if_pos enough

/-- How many stand in front of the first that is not as asked for. -/
def partitionPoint (holds : α → Bool) (row : List α) : Nat := row.findIdx fun a => !holds a

theorem partitionPoint_le (holds : α → Bool) (row : List α) :
    partitionPoint holds row ≤ row.length := List.findIdx_le_length

theorem head?_dropWhile_eq (holds : α → Bool) (row : List α) :
    (row.dropWhile holds).head? = row[partitionPoint holds row]? := by
  rw [List.dropWhile_eq_drop_findIdx_not, List.head?_drop, partitionPoint]

theorem getLast?_takeWhile_eq (holds : α → Bool) (row : List α) :
    (row.takeWhile holds).getLast? =
      if partitionPoint holds row = 0 then none else row[partitionPoint holds row - 1]? := by
  rw [List.takeWhile_eq_take_findIdx_not, List.getLast?_take]
  change (if partitionPoint holds row = 0 then none else
    row[partitionPoint holds row - 1]?.or row.getLast?) = _
  have le := partitionPoint_le holds row
  split
  next => rfl
  next positive =>
    have inside : partitionPoint holds row - 1 < row.length := by omega
    rw [List.getElem?_eq_getElem inside, Option.some_or]

@[simp] theorem lift_ok_bind {ε β : Type} (a : α) (next : α → Guarded ε β) :
    (ExceptT.lift (.ok a : Checked α) >>= next) = next a := rfl

/-! ## Loops that end -/

theorem add_ne_endless (a b : Nat) : add a b ≠ .error .endless := by
  unfold add
  split <;> nofun

theorem bind_ne_endless {β : Type} {checked : Checked α} {next : α → Checked β}
    (first : checked ≠ .error .endless) (later : ∀ a, checked = .ok a → next a ≠ .error .endless) :
    checked >>= next ≠ .error .endless := by
  cases ended : checked with
  | ok a => exact later a ended
  | error trap =>
    rw [error_bind]
    intro same
    exact first (ended.trans (congrArg Except.error (Except.error.inj same)))

end Checked

/-- Nothing stops the machine, and it comes to what the attempt comes to. -/
def Agrees {ε α : Type} (machine : Guarded ε α) (attempt : Attempt ε α) : Prop :=
  machine.run = .ok attempt.result

namespace Agrees

variable {ε α β : Type} {machine : Guarded ε α} {attempt : Attempt ε α}

theorem pure (a : α) : Agrees (Pure.pure a : Guarded ε α) (Pure.pure a) := rfl

/-- What follows only has to agree on what the first part can come to. -/
theorem bind {next : α → Guarded ε β} {follow : α → Attempt ε β} (first : Agrees machine attempt)
    (then_ : ∀ a, attempt.result = .ok a → Agrees (next a) (follow a)) :
    Agrees (machine >>= next) (attempt >>= follow) := by
  unfold Agrees at first ⊢
  rw [ExceptT.run_bind, first, Attempt.result_bind, ok_bind]
  cases ended : attempt.result with
  | ok a => exact then_ a ended
  | error cause => rfl

theorem lift {checked : Checked α} {traced : Traced α} (same : checked = .ok traced.value) :
    Agrees (ExceptT.lift checked : Guarded ε α) (ExceptT.lift traced) := by
  rw [same]
  rfl

/-- A step that only the machine takes, and that cannot stop it. -/
theorem checked_bind {checked : Checked β} {b : β} {next : β → Guarded ε α}
    (same : checked = .ok b) (then_ : Agrees (next b) attempt) :
    Agrees (ExceptT.lift checked >>= next) attempt := by
  rw [same]
  exact then_

theorem emit {event : Event} (agrees : Agrees machine attempt) :
    Agrees machine (Attempt.emit event >>= fun _ => attempt) := by
  unfold Agrees at agrees ⊢
  rw [agrees, Attempt.result_bind, Attempt.result_emit, ok_bind]

theorem mapM {row : List α} {next : α → Guarded ε β} {follow : α → Attempt ε β}
    (all : ∀ a ∈ row, Agrees (next a) (follow a)) :
    Agrees (row.mapM next) (row.mapM follow) := by
  induction row with
  | nil => exact pure []
  | cons first rest ih =>
    rw [List.mapM_cons, List.mapM_cons]
    apply bind (all first List.mem_cons_self)
    intro b _
    apply bind (ih fun a member => all a (List.mem_cons_of_mem _ member))
    intro later _
    exact pure _

end Agrees

/-- A step of a search that may come upon a fatal fault. -/
def Guarded.ofAttempt {α : Type} (machine : Guarded Fatal α) : Guarded Halt α :=
  ExceptT.adapt Halt.fatal machine

theorem Agrees.ofAttempt {α : Type} {machine : Guarded Fatal α} {attempt : Attempt Fatal α}
    (agrees : Agrees machine attempt) :
    Agrees machine.ofAttempt (Search.ofAttempt attempt) := by
  unfold Agrees at agrees ⊢
  change Except.mapError Halt.fatal <$> machine.run = _
  rw [agrees]
  rfl

end Landmark
