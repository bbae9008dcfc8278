import Landmark.JsonText.Quote

/-! # Passing over values

A value that nobody asked for is passed over whatever it is, however deep it nests;
only its spelling is checked, and of text not even whether it means something.
-/

namespace Landmark.JsonText

open JsonFormat (Fault Reader isBlank)

/-- The text behind its leading blanks. -/
def dropBlank (text : List Char) : List Char := text.dropWhile isBlank

/-- Takes the letters of a word one by one. -/
def readWord : (word : List Char) → Reader Unit
  | [], text => .ok ((), text)
  | _ :: _, [] => .error ended
  | letter :: word, c :: rest =>
    if c = letter then readWord word rest else .error malformed

/-- Takes a colon, blanks in front of it aside. -/
def readColon : Reader Unit := fun text =>
  match dropBlank text with
  | [] => .error ended
  | ':' :: rest => .ok ((), rest)
  | _ => .error malformed

/-- Passes over a value that holds no other. -/
def skipScalar : Reader Unit := fun text =>
  match text with
  | [] => .error ended
  | 'n' :: rest => readWord ['u', 'l', 'l'] rest
  | 't' :: rest => readWord ['r', 'u', 'e'] rest
  | 'f' :: rest => readWord ['a', 'l', 's', 'e'] rest
  | '"' :: rest => skipQuoted rest
  | c :: rest => if c = '-' ∨ c.isDigit then skipNumber (c :: rest) else .error malformed

/-- Passes over the name of a member and the colon behind it. -/
def skipName (text : List Char) : Except Fault (List Char) :=
  match dropBlank text with
  | [] => .error ended
  | '"' :: rest => do
    let (_, rest) ← skipQuoted rest
    let (_, rest) ← readColon rest
    return rest
  | _ => .error malformed

mutual

/-- Passes over a value, with `fuel` for each of its parts. -/
def skipValueWith : (fuel : Nat) → List Char → Except Fault (List Char)
  | 0, _ => .error malformed
  | fuel + 1, text =>
    match dropBlank text with
    | [] => .error ended
    | '[' :: rest =>
      match dropBlank rest with
      | [] => .error ended
      | ']' :: rest => .ok rest
      | rest => skipElementsWith fuel rest
    | '\x7b' :: rest =>
      match dropBlank rest with
      | [] => .error ended
      | '\x7d' :: rest => .ok rest
      | rest => skipMembersWith fuel rest
    | text => (skipScalar text).map Prod.snd

/-- Passes over the elements of an array from one on. -/
def skipElementsWith : (fuel : Nat) → List Char → Except Fault (List Char)
  | 0, _ => .error malformed
  | fuel + 1, text =>
    match skipValueWith fuel text with
    | .error fault => .error fault
    | .ok rest =>
      match dropBlank rest with
      | [] => .error ended
      | ',' :: rest => skipElementsWith fuel rest
      | ']' :: rest => .ok rest
      | _ => .error malformed

/-- Passes over the members of an object from one on. -/
def skipMembersWith : (fuel : Nat) → List Char → Except Fault (List Char)
  | 0, _ => .error malformed
  | fuel + 1, text =>
    match skipName text with
    | .error fault => .error fault
    | .ok rest =>
      match skipValueWith fuel rest with
      | .error fault => .error fault
      | .ok rest =>
        match dropBlank rest with
        | [] => .error ended
        | ',' :: rest => skipMembersWith fuel rest
        | '\x7d' :: rest => .ok rest
        | _ => .error malformed

end

/-- Passes over a value. Every two parts take a character, so the fuel lasts. -/
def skipValue : Reader Unit := fun text =>
  (skipValueWith (2 * text.length + 2) text).map fun rest => ((), rest)

end Landmark.JsonText
