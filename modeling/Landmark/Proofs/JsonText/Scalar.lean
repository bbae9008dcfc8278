import Landmark.JsonText.Record
import Landmark.Proofs.Log.Attempt
import Mathlib.Data.List.Basic
import Mathlib.Tactic.IntervalCases

/-! # Numbers and texts read back

What is written for a number is read as that number where it ends, and a quoted text as that text
whatever characters it holds: the quote, the backslash and the control characters by their escapes,
every other character by itself.
-/

namespace Landmark.JsonText

/-! ## Numbers -/

/-- A number that stands in front ends here. -/
def EndsNumber (rest : List Char) : Prop :=
  ∀ c ∈ rest.head?, c.isDigit = false ∧ c ≠ '.' ∧ c ≠ 'e' ∧ c ≠ 'E'

variable {rest digits : List Char} {n significand taken : Nat}

theorem le_ofDigitChars (digits : List Char) (significand : Nat) :
    significand ≤ Nat.ofDigitChars 10 digits significand := by
  have positive : 0 < 10 ^ digits.length := Nat.pow_pos (by decide)
  rw [Nat.ofDigitChars_eq_ofDigitChars_zero]
  exact Nat.le_add_right_of_le (Nat.le_mul_of_pos_left significand positive)

/-- Digits are taken for as long as the number fits, and here it does to the end. -/
theorem takeDigits_append (all : ∀ c ∈ digits, c.isDigit = true)
    (fits : Nat.ofDigitChars 10 digits significand ≤ maxWhole) (ends : EndsNumber rest) :
    takeDigits significand taken (digits ++ rest) =
      (Nat.ofDigitChars 10 digits significand, taken + digits.length, rest) := by
  induction digits generalizing significand taken with
  | nil =>
    cases rest with
    | nil => rfl
    | cons c rest =>
      have other : c.isDigit = false := (ends c rfl).1
      simp [takeDigits, other]
  | cons c digits ih =>
    have here := all c List.mem_cons_self
    have next : Nat.ofDigitChars 10 (c :: digits) significand =
        Nat.ofDigitChars 10 digits (significand * 10 + digit c) := by
      rw [Nat.ofDigitChars_cons, Nat.mul_comm]
      rfl
    rw [next] at fits ⊢
    have small := Nat.le_trans (le_ofDigitChars digits _) fits
    rw [List.cons_append, takeDigits, if_pos ⟨here, small⟩,
      ih (fun c member => all c (List.mem_cons_of_mem _ member)) fits, List.length_cons]
    simp only [Nat.add_comm, Nat.add_left_comm]

theorem head?_toDigits_ne (positive : 0 < n) : (Nat.toDigits 10 n).head? ≠ some '0' := by
  induction n using Nat.strongRecOn with
  | ind n ih =>
    by_cases small : n < 10
    · rw [Nat.toDigits_of_lt_base small]
      interval_cases n <;> decide
    · rw [Nat.toDigits_of_base_le (by decide) (Nat.le_of_not_lt small),
        List.head?_append_of_ne_nil _ Nat.toDigits_ne_nil]
      exact ih (n / 10) (by omega) (by omega)

theorem readRest_of_ends (ends : EndsNumber rest) (number : Decimal) :
    readRest (some n) number rest = .ok (some n, rest) := by
  unfold readRest
  split
  · exact absurd rfl (ends _ rfl).2.1
  · exact absurd rfl (ends _ rfl).2.2.1
  · exact absurd rfl (ends _ rfl).2.2.2
  · rfl

theorem readUnsigned_zero (ends : EndsNumber rest) :
    readUnsigned false ('0' :: rest) = .ok (some 0, rest) := by
  cases rest with
  | nil => rfl
  | cons c rest =>
    have other : c.isDigit = false := (ends c rfl).1
    simp [readUnsigned, other, readRest_of_ends ends]

theorem readUnsigned_toDigits (positive : 0 < n) (fits : n ≤ maxWhole) (ends : EndsNumber rest) :
    readUnsigned false (Nat.toDigits 10 n ++ rest) = .ok (some n, rest) := by
  have all : ∀ c ∈ Nat.toDigits 10 n, c.isDigit = true :=
    fun c member => Nat.isDigit_of_mem_toDigits (by decide) (by decide) member
  have leads := head?_toDigits_ne positive
  have value : Nat.ofDigitChars 10 (Nat.toDigits 10 n) 0 = n := Nat.ofDigitChars_ten_toDigits
  have taken := @takeDigits_append rest (Nat.toDigits 10 n) 0 0 all (value.symm ▸ fits) ends
  have stops : rest.takeWhile Char.isDigit = [] ∧ rest.dropWhile Char.isDigit = rest := by
    cases rest with
    | nil => exact ⟨rfl, rfl⟩
    | cons c rest => simp [(ends c rfl).1]
  rw [value] at taken
  cases written : Nat.toDigits 10 n with
  | nil => exact absurd written Nat.toDigits_ne_nil
  | cons c later =>
    rw [written] at all leads taken
    have first : c ≠ '0' := fun zero => leads (congrArg some zero)
    have here := all c List.mem_cons_self
    rw [List.cons_append] at taken ⊢
    unfold readUnsigned
    split
    case h_1 => contradiction
    case h_2 same => exact absurd (List.cons.inj same).1 first
    case h_3 same =>
      obtain ⟨rfl, rfl⟩ := List.cons.inj same
      rw [if_pos here, taken]
      simp [stops, readRest_of_ends ends]

/-- **A number reads back.** -/
theorem readNumber_writeNumber (fits : n ≤ maxWhole) (ends : EndsNumber rest) :
    readNumber (writeNumber n ++ rest) = .ok (some n, rest) := by
  have unsigned : readUnsigned false (writeNumber n ++ rest) = .ok (some n, rest) := by
    rcases Nat.eq_zero_or_pos n with rfl | positive
    · exact readUnsigned_zero ends
    · exact readUnsigned_toDigits positive fits ends
  unfold readNumber
  split
  next minus =>
    cases written : writeNumber n with
    | nil => exact absurd written Nat.toDigits_ne_nil
    | cons c later =>
      have here : c ∈ Nat.toDigits 10 n := by
        change c ∈ writeNumber n
        simp [written]
      have isDigit := Nat.isDigit_of_mem_toDigits (by decide) (by decide) here
      rw [written] at minus
      obtain rfl := (List.cons.inj minus).1
      cases isDigit
  next => exact unsigned

/-! ## Quoted text -/

theorem hexDigit?_hexDigit {value : Nat} (small : value < 16) :
    hexDigit? (hexDigit value) = some value := by
  interval_cases value <;> decide

/-- A control character is the code point of its escape. -/
theorem unescape_control {c : Char} (control : c < ' ') (rest : List Char) :
    unescape ('u' :: '0' :: '0' :: hexDigit (c.toNat / 16) :: hexDigit (c.toNat % 16) :: rest) =
      .ok (c, 5) := by
  have small : c.toNat < 32 := control
  have high : hexDigit? (hexDigit (c.toNat / 16)) = some (c.toNat / 16) :=
    hexDigit?_hexDigit (by omega)
  have low : hexDigit? (hexDigit (c.toNat % 16)) = some (c.toNat % 16) :=
    hexDigit?_hexDigit (by omega)
  have zero : hexDigit? '0' = some 0 := by decide
  have whole : c.toNat / 16 * 16 + c.toNat % 16 = c.toNat := by omega
  have unit : readUnit
      ('0' :: '0' :: hexDigit (c.toNat / 16) :: hexDigit (c.toNat % 16) :: rest) =
        .ok c.toNat := by
    simp [readUnit, zero, high, low, whole]
  have notLow : isLowHalf c.toNat = false := by simp [isLowHalf]; omega
  have notHigh : isHighHalf c.toNat = false := by simp [isHighHalf]; omega
  simp [unescape, unit, notLow, notHigh]
  rfl

/-- A character reads back from how it is written. -/
theorem readQuoted_escaped (c : Char) {rest found left : List Char}
    (later : readQuoted rest = .ok (found, left)) :
    readQuoted (escaped c ++ rest) = .ok (c :: found, left) := by
  unfold escaped
  split
  case h_8 quote backslash _ _ _ _ _ =>
    by_cases control : c < ' '
    · rw [if_pos control]
      simp [readQuoted, unescape_control control, later]
    · rw [if_neg control]
      have plain : c ≠ '"' ∧ c ≠ '\\' := ⟨quote, backslash⟩
      simp [readQuoted, plain, control, later]
  all_goals simp [readQuoted, unescape, escapeLetter?, later]

theorem readQuoted_flatMap (text rest : List Char) :
    readQuoted (text.flatMap escaped ++ '"' :: rest) = .ok (text, rest) := by
  induction text with
  | nil => simp [readQuoted]
  | cons c text ih =>
    rw [List.flatMap_cons, List.append_assoc]
    exact readQuoted_escaped c ih

end Landmark.JsonText
