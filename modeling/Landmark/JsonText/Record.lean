import Landmark.JsonText.Skip

/-! # Records as JSON text

A record is read from an object, whose members may come in any order and be left out,
or from an array of its slots in their order, whose last ones may be left out. What is
left out keeps the value it had. Members of other names are passed over; a slot given
twice is a mismatch, and so is a value of another type than its slot's.
-/

namespace Landmark.JsonText

open JsonFormat (Fault Reader Slot)

/-- What is wrong with a value that is not of the type asked for: its spelling, if anything. -/
def refuse (text : List Char) : Fault :=
  let reading : Except Fault Unit :=
    match text with
    | [] => .error ended
    | 'n' :: rest => (readWord ['u', 'l', 'l'] rest).map fun _ => ()
    | 't' :: rest => (readWord ['r', 'u', 'e'] rest).map fun _ => ()
    | 'f' :: rest => (readWord ['a', 'l', 's', 'e'] rest).map fun _ => ()
    | '"' :: rest => (readQuoted rest).map fun _ => ()
    | '[' :: _ | '\x7b' :: _ => .ok ()
    | c :: rest =>
      if c = '-' ∨ c.isDigit then (readNumber (c :: rest)).map fun _ => ()
      else .error malformed
  match reading with
  | .error fault => fault
  | .ok () => mismatched

/-- Takes a whole number of at most `limit`. -/
def readNat (limit : Nat) : Reader Nat := fun text =>
  match dropBlank text with
  | [] => .error ended
  | c :: rest =>
    if c = '-' ∨ c.isDigit then
      match readNumber (c :: rest) with
      | .error fault => .error fault
      | .ok (some n, left) => if n ≤ limit then .ok (n, left) else .error mismatched
      | .ok (none, _) => .error mismatched
    else .error (refuse (c :: rest))

/-- Takes text. -/
def readText : Reader String := fun text =>
  match dropBlank text with
  | [] => .error ended
  | '"' :: rest => (readQuoted rest).map fun (found, left) => (String.ofList found, left)
  | text => .error (refuse text)

/-- Takes the value of a member and puts it into its slot, when there is one. Gives back the
names of the slots filled so far. -/
def readMember {σ : Type} (slots : List (Slot σ)) (filled : List String) (name : String)
    (value : σ) : Reader (List String × σ) := fun text =>
  match slots.find? fun slot => slot.name == name with
  | none => do
    let (_, rest) ← readColon text
    let (_, rest) ← skipValue rest
    return ((filled, value), rest)
  | some slot => do
    if filled.contains name then throw mismatched
    let (_, rest) ← readColon text
    let (value, rest) ← slot.read value rest
    return ((name :: filled, value), rest)

/-- Takes the members of an object from the quote of a name on, at most `fuel` of them. -/
def readMembersWith {σ : Type} (slots : List (Slot σ)) :
    (fuel : Nat) → (filled : List String) → σ → Reader σ
  | 0, _, _, _ => .error malformed
  | fuel + 1, filled, value, text =>
    match text with
    | '"' :: rest => do
      let (name, rest) ← readQuoted rest
      let ((filled, value), rest) ← readMember slots filled (String.ofList name) value rest
      match dropBlank rest with
      | [] => throw ended
      | '\x7d' :: rest => return (value, rest)
      | ',' :: rest =>
        match dropBlank rest with
        | [] => throw ended
        | rest => readMembersWith slots fuel filled value rest
      | _ => throw malformed
    | _ => .error malformed

/-- Takes an object behind its opening brace. Every member takes a character, so the fuel
lasts. -/
def readObject {σ : Type} (slots : List (Slot σ)) (value : σ) : Reader σ := fun text =>
  match dropBlank text with
  | [] => .error ended
  | '\x7d' :: rest => .ok (value, rest)
  | rest => readMembersWith slots (rest.length + 1) [] value rest

/-- Takes the elements of an array that are left for these slots, and its closing bracket. The
first one has no comma in front of it. -/
def readElements {σ : Type} : List (Slot σ) → (isFirst : Bool) → σ → Reader σ
  | [], _, value, text =>
    match dropBlank text with
    | [] => .error ended
    | ']' :: rest => .ok (value, rest)
    | _ => .error malformed
  | slot :: slots, isFirst, value, text =>
    match dropBlank text with
    | [] => .error ended
    | ']' :: rest => .ok (value, rest)
    | c :: rest =>
      if isFirst then
        match slot.read value (c :: rest) with
        | .error fault => .error fault
        | .ok (value, left) => readElements slots false value left
      else if c = ',' then
        match dropBlank rest with
        | [] => .error ended
        | ']' :: _ => .error malformed
        | rest =>
          match slot.read value rest with
          | .error fault => .error fault
          | .ok (value, left) => readElements slots false value left
      else .error malformed

/-- Takes a record. -/
def readRecord {σ : Type} (slots : List (Slot σ)) (value : σ) : Reader σ := fun text =>
  match dropBlank text with
  | [] => .error ended
  | '[' :: rest => readElements slots true value rest
  | '\x7b' :: rest => readObject slots value rest
  | text => .error (refuse text)

/-- Fails when more than blanks is left of a text. -/
def finish (text : List Char) : Except Fault Unit :=
  match dropBlank text with
  | [] => .ok ()
  | _ => .error malformed

/-- Writes a member of an object. -/
def writeMember {σ : Type} (slot : Slot σ) (value : σ) : List Char :=
  writeQuoted slot.name.toList ++ ':' :: slot.write value

/-- Writes the named slots of a record as an object, in the order given. -/
def writeRecord {σ : Type} (slots : List (Slot σ)) (value : σ) : List Char :=
  '\x7b' :: ([','].intercalate (slots.map fun slot => writeMember slot value) ++ ['\x7d'])

instance : JsonFormat where
  readNat := readNat
  readText := readText
  readRecord := readRecord
  finish := finish
  writeNat := writeNumber
  writeText text := writeQuoted text.toList
  writeRecord := writeRecord

end Landmark.JsonText
