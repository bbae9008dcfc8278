import Landmark.JsonFormat

/-! # JSON numbers

Only whole numbers of at most 64 bits without a sign are numbers of a configuration.
Every other number is read to its end all the same, because what is wrong with its
spelling, or with its size as a number of floating point, is found first.

Reading goes from left to right and the first fault decides. There are three kinds:
the text ends too early, it is no JSON, or it is JSON of another shape than asked for.
Their words say the kind and no more, neither the place nor what was expected there.
-/

namespace Landmark.JsonText

open JsonFormat (Fault Reader)

/-- The text ends inside a value. -/
def ended : Fault := { message := "json: eof" }

/-- The text is no JSON. -/
def malformed : Fault := { message := "json: syntax" }

/-- A value is not of the type or range asked for. -/
def mismatched : Fault := { message := "json: data" }

/-- The largest whole number that is kept as one. -/
def maxWhole : Nat := 0xFFFFFFFFFFFFFFFF

/-- The value of a decimal digit. -/
def digit (c : Char) : Nat := c.toNat - '0'.toNat

/-- A number in floating point: a significand and a power of ten. -/
structure Decimal where
  significand : Nat
  exponent : Int

/-- Rounds to 53 significant bits, a half to the even neighbour. -/
def roundSignificand (n : Nat) : Nat :=
  if n < 0x20000000000000 then n
  else
    let shift := n.log2 - 52
    let quotient := n >>> shift
    let rest := n - (quotient <<< shift)
    let half := 1 <<< (shift - 1)
    let rounded :=
      if half < rest ∨ (rest = half ∧ quotient % 2 = 1) then quotient + 1 else quotient
    rounded <<< shift

/-- Whether a number in floating point is too large: its significand and its power of ten are
rounded, and their product would round to more than the largest number. -/
def Decimal.overflows (number : Decimal) : Bool :=
  match number.exponent with
  | .ofNat exponent =>
    if number.significand = 0 then false
    else if 308 < exponent then true
    else
      (1 <<< 1024) - (1 <<< 970) ≤
        roundSignificand number.significand * roundSignificand (Nat.pow 10 exponent)
  | .negSucc _ => false

/-- Takes digits into a significand for as long as it stays a whole number; then the rest of
them is left. -/
def takeDigits : (significand taken : Nat) → List Char → Nat × Nat × List Char
  | significand, taken, [] => (significand, taken, [])
  | significand, taken, c :: rest =>
    if c.isDigit ∧ significand * 10 + digit c ≤ maxWhole then
      takeDigits (significand * 10 + digit c) (taken + 1) rest
    else (significand, taken, c :: rest)

/-- Ends a number in floating point. -/
def finishDecimal (number : Decimal) (rest : List Char) : Except Fault (Option Nat × List Char) :=
  if number.overflows then .error malformed else .ok (none, rest)

/-- Takes the digits of an exponent; one past 31 bits is decided at once. -/
def readExponentDigits (number : Decimal) (negative : Bool) :
    (exponent : Nat) → Reader (Option Nat)
  | exponent, [] =>
    finishDecimal { number with
      exponent := if negative then number.exponent - exponent else number.exponent + exponent } []
  | exponent, c :: rest =>
    if c.isDigit then
      if 0x7FFFFFFF < exponent * 10 + digit c then
        if number.significand ≠ 0 ∧ !negative then .error malformed
        else .ok (none, (c :: rest).dropWhile Char.isDigit)
      else readExponentDigits number negative (exponent * 10 + digit c) rest
    else
      finishDecimal { number with
        exponent := if negative then number.exponent - exponent else number.exponent + exponent }
        (c :: rest)

/-- Takes an exponent behind its letter. -/
def readExponent (number : Decimal) (text : List Char) : Except Fault (Option Nat × List Char) :=
  let (negative, digits) :=
    match text with
    | '+' :: rest => (false, rest)
    | '-' :: rest => (true, rest)
    | text => (false, text)
  match digits with
  | [] => .error ended
  | c :: rest =>
    if c.isDigit then readExponentDigits number negative (digit c) rest else .error malformed

/-- Takes an exponent, when there is one, and ends the number. -/
def readTail (number : Decimal) (text : List Char) : Except Fault (Option Nat × List Char) :=
  match text with
  | 'e' :: rest | 'E' :: rest => readExponent number rest
  | text => finishDecimal number text

/-- Takes the digits behind a point. -/
def readFraction (number : Decimal) (text : List Char) : Except Fault (Option Nat × List Char) :=
  match text with
  | [] => .error ended
  | c :: _ =>
    if c.isDigit then
      let (significand, taken, rest) := takeDigits number.significand 0 text
      readTail { significand, exponent := number.exponent - taken } (rest.dropWhile Char.isDigit)
    else .error malformed

/-- Ends a number behind its leading digits. Without point and exponent it is the whole number
`whole`, when there is one. -/
def readRest (whole : Option Nat) (number : Decimal) (text : List Char) :
    Except Fault (Option Nat × List Char) :=
  match text with
  | '.' :: rest => readFraction number rest
  | 'e' :: rest | 'E' :: rest => readExponent number rest
  | text =>
    match whole with
    | some n => .ok (some n, text)
    | none => finishDecimal number text

/-- Takes a number behind its sign: the whole number that it is, when it is one. A sign makes
any number something else. -/
def readUnsigned (signed : Bool) : Reader (Option Nat) := fun text =>
  match text with
  | [] => .error ended
  | '0' :: rest =>
    match rest with
    | c :: _ =>
      if c.isDigit then .error malformed
      else readRest (if signed then none else some 0) { significand := 0, exponent := 0 } rest
    | [] => .ok (if signed then none else some 0, [])
  | c :: _ =>
    if c.isDigit then
      let (significand, _, rest) := takeDigits 0 0 text
      let later := rest.takeWhile Char.isDigit
      readRest (if signed ∨ !later.isEmpty then none else some significand)
        { significand, exponent := later.length } (rest.dropWhile Char.isDigit)
    else .error malformed

/-- Takes a number. -/
def readNumber : Reader (Option Nat) := fun text =>
  match text with
  | '-' :: rest => readUnsigned true rest
  | text => readUnsigned false text

/-- Passes over an exponent behind its letter, when nobody asks for the number. -/
def skipExponent (text : List Char) : Except Fault (Unit × List Char) :=
  let digits :=
    match text with
    | '+' :: rest | '-' :: rest => rest
    | text => text
  match digits with
  | c :: rest =>
    if c.isDigit then .ok ((), rest.dropWhile Char.isDigit) else .error malformed
  | [] => .error malformed

/-- Passes over what follows the leading digits of a number. -/
def skipRest (text : List Char) : Except Fault (Unit × List Char) :=
  match text with
  | '.' :: c :: rest =>
    if c.isDigit then
      match rest.dropWhile Char.isDigit with
      | 'e' :: rest | 'E' :: rest => skipExponent rest
      | rest => .ok ((), rest)
    else .error malformed
  | '.' :: [] => .error malformed
  | 'e' :: rest | 'E' :: rest => skipExponent rest
  | text => .ok ((), text)

/-- Passes over a number behind its sign. One that ends too early is misspelt. -/
def skipUnsigned : Reader Unit := fun text =>
  match text with
  | '0' :: rest =>
    match rest with
    | c :: _ => if c.isDigit then .error malformed else skipRest rest
    | [] => .ok ((), [])
  | c :: rest =>
    if c.isDigit then skipRest (rest.dropWhile Char.isDigit) else .error malformed
  | [] => .error malformed

/-- Passes over a number. -/
def skipNumber : Reader Unit := fun text =>
  match text with
  | '-' :: rest => skipUnsigned rest
  | text => skipUnsigned text

/-- The digits of a number. -/
def writeNumber (n : Nat) : List Char := Nat.toDigits 10 n

end Landmark.JsonText
