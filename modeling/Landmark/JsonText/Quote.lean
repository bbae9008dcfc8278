import Landmark.JsonText.Number

/-! # Quoted JSON text

Between quotes a backslash opens an escape; control characters stand there only as
escapes. A code point past the sixteenth bit is escaped in two halves, and a half on
its own is no text. Writing uses an escape only where one is needed, so what is
written reads back.
-/

namespace Landmark.JsonText

open JsonFormat (Fault Reader)

/-- The value of a hexadecimal digit of either case. -/
def hexDigit? (c : Char) : Option Nat :=
  if '0' ≤ c ∧ c ≤ '9' then some (c.toNat - '0'.toNat)
  else if 'a' ≤ c ∧ c ≤ 'f' then some (c.toNat - 'a'.toNat + 10)
  else if 'A' ≤ c ∧ c ≤ 'F' then some (c.toNat - 'A'.toNat + 10)
  else none

/-- The number of four hexadecimal digits at the front of a text. A text of fewer than four
bytes ends too early. -/
def readUnit (text : List Char) : Except Fault Nat :=
  let missing : Fault :=
    if (text.take 4).foldl (fun size c => size + c.utf8Size) 0 < 4 then ended else malformed
  match text with
  | a :: b :: c :: d :: _ =>
    match hexDigit? a, hexDigit? b, hexDigit? c, hexDigit? d with
    | some a, some b, some c, some d => .ok (((a * 16 + b) * 16 + c) * 16 + d)
    | _, _, _, _ => .error missing
  | _ => .error missing

/-- Whether a unit is the first half of a code point. -/
def isHighHalf (unit : Nat) : Bool := 0xD800 ≤ unit && unit < 0xDC00

/-- Whether a unit is the second half of a code point. -/
def isLowHalf (unit : Nat) : Bool := 0xDC00 ≤ unit && unit < 0xE000

/-- The second half of a code point: an escape of its own. -/
def readLowHalf (text : List Char) : Except Fault Nat :=
  match text with
  | [] => .error ended
  | '\\' :: [] => .error ended
  | '\\' :: 'u' :: rest => do
    let unit ← readUnit rest
    if isLowHalf unit then return unit else throw malformed
  | _ => .error malformed

/-- The character of an escape by its letter. -/
def escapeLetter? (c : Char) : Option Char :=
  match c with
  | '"' => some '"'
  | '\\' => some '\\'
  | '/' => some '/'
  | 'b' => some '\x08'
  | 'f' => some '\x0c'
  | 'n' => some '\n'
  | 'r' => some '\r'
  | 't' => some '\t'
  | _ => none

/-- The character of the escape behind a backslash, and how many characters it takes. -/
def unescape (text : List Char) : Except Fault (Char × Nat) :=
  match text with
  | [] => .error ended
  | 'u' :: rest => do
    let unit ← readUnit rest
    if isLowHalf unit then throw malformed
    else if isHighHalf unit then
      let low ← readLowHalf (rest.drop 4)
      return (Char.ofNat (0x10000 + (unit - 0xD800) * 0x400 + (low - 0xDC00)), 11)
    else return (Char.ofNat unit, 5)
  | c :: _ =>
    match escapeLetter? c with
    | some meant => .ok (meant, 1)
    | none => .error malformed

/-- Takes quoted text behind its opening quote. -/
def readQuoted : Reader (List Char)
  | [] => .error ended
  | c :: rest =>
    if c = '"' then .ok ([], rest)
    else if c = '\\' then
      match unescape rest with
      | .error fault => .error fault
      | .ok (meant, taken) =>
        match readQuoted (rest.drop taken) with
        | .error fault => .error fault
        | .ok (later, left) => .ok (meant :: later, left)
    else if c < ' ' then .error malformed
    else
      match readQuoted rest with
      | .error fault => .error fault
      | .ok (later, left) => .ok (c :: later, left)
termination_by text => text.length
decreasing_by
  · simp only [List.length_drop, List.length_cons]; omega
  · simp

/-- How many characters the escape behind a backslash takes, when nobody asks what it means. -/
def escapeLength (text : List Char) : Except Fault Nat :=
  match text with
  | [] => .error ended
  | 'u' :: rest => (readUnit rest).map fun _ => 5
  | c :: _ => if (escapeLetter? c).isSome then .ok 1 else .error malformed

/-- Passes over quoted text behind its opening quote. -/
def skipQuoted : Reader Unit
  | [] => .error ended
  | c :: rest =>
    if c = '"' then .ok ((), rest)
    else if c = '\\' then
      match escapeLength rest with
      | .error fault => .error fault
      | .ok taken => skipQuoted (rest.drop taken)
    else if c < ' ' then .error malformed
    else skipQuoted rest
termination_by text => text.length
decreasing_by
  · simp only [List.length_drop, List.length_cons]; omega
  · simp

/-- The hexadecimal digit of a value below 16. -/
def hexDigit (value : Nat) : Char := (Nat.toDigits 16 value).headD '0'

/-- How a character is written between quotes. -/
def escaped (c : Char) : List Char :=
  match c with
  | '"' => ['\\', '"']
  | '\\' => ['\\', '\\']
  | '\x08' => ['\\', 'b']
  | '\x0c' => ['\\', 'f']
  | '\n' => ['\\', 'n']
  | '\r' => ['\\', 'r']
  | '\t' => ['\\', 't']
  | c =>
    if c < ' ' then ['\\', 'u', '0', '0', hexDigit (c.toNat / 16), hexDigit (c.toNat % 16)]
    else [c]

/-- A text between quotes. -/
def writeQuoted (text : List Char) : List Char :=
  '"' :: (text.flatMap escaped ++ ['"'])

end Landmark.JsonText
