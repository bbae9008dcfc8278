import Landmark.Bytes

/-! # UTF-8

Bytes are read as a row of parts: each part is a character, or a longest start of one
that goes wrong. Strict reading refuses a row with a part of the second kind; lenient
reading shows a replacement character for it.
-/

namespace Landmark.Text.Utf8

/-- How many bytes follow a first byte. -/
def followers (first : Nat) : Option Nat :=
  if first < 0x80 then some 0
  else if 0xC2 ≤ first ∧ first < 0xE0 then some 1
  else if 0xE0 ≤ first ∧ first < 0xF0 then some 2
  else if 0xF0 ≤ first ∧ first < 0xF5 then some 3
  else none

/-- Whether a second byte may stand behind a first: no character is written longer than it
needs, none is a surrogate and none is past the last code point. -/
def followsFirst (first second : Nat) : Bool :=
  match first with
  | 0xE0 => 0xA0 ≤ second && second < 0xC0
  | 0xED => 0x80 ≤ second && second < 0xA0
  | 0xF0 => 0x90 ≤ second && second < 0xC0
  | 0xF4 => 0x80 ≤ second && second < 0x90
  | _ => 0x80 ≤ second && second < 0xC0

/-- Whether a byte may stand further behind. -/
def followsLater (byte : Nat) : Bool := 0x80 ≤ byte && byte < 0xC0

/-- The bytes behind a first byte that can belong to the same character, at most `count`. -/
def accepted (first count : Nat) (rest : Bytes) : List Nat :=
  match (rest.take count).map UInt8.toNat with
  | [] => []
  | second :: later =>
    if followsFirst first second then second :: later.takeWhile followsLater else []

/-- The code point of a first byte and its followers. -/
def codePoint (first : Nat) (later : List Nat) : Nat :=
  let head :=
    match later.length with
    | 0 => first
    | 1 => first % 0x20
    | 2 => first % 0x10
    | _ => first % 0x08
  later.foldl (fun code byte => code * 0x40 + byte % 0x40) head

/-- The part that a first byte opens, and how many bytes it takes besides. -/
def part (first : Nat) (rest : Bytes) : Option Char × Nat :=
  match followers first with
  | none => (none, 0)
  | some count =>
    let later := accepted first count rest
    if later.length = count then (some (Char.ofNat (codePoint first later)), count)
    else (none, later.length)

/-- The parts of a byte string. -/
def parts : Bytes → List (Option Char)
  | [] => []
  | first :: rest =>
    let found := part first.toNat rest
    found.1 :: parts (rest.drop found.2)
termination_by bytes => bytes.length
decreasing_by
  simp only [List.length_drop, List.length_cons]
  omega

/-- The text of a byte string, when it is well formed. -/
def decode? (bytes : Bytes) : Option String :=
  ((parts bytes).mapM id).map String.ofList

/-- The text of a byte string, with a replacement character for each part that is none. -/
def decodeLenient (bytes : Bytes) : String :=
  String.ofList ((parts bytes).map fun part => part.getD '\uFFFD')

/-- The bytes of a text. -/
def encode (text : String) : Bytes := text.toUTF8.toList

end Landmark.Text.Utf8
