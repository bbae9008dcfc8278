import Landmark.Text.Joining
import Landmark.Text.Unprintable

/-! # Numbers and texts as they are shown

Addresses are written in lower case behind `0x`; a least width counts the mark too. Listings of
instructions write upper-case digits and bring their own marks. Diagnostics show text between
double quotes: what would end the quote, break the line or leave no picture of its own is written
as an escape.
-/

namespace Landmark

namespace Hex

/-- The hexadecimal digits of a number, in lower case, with no leading zero. -/
def digits (n : Nat) : String :=
  String.ofList (Nat.toDigits 16 n)

/-- The hexadecimal digits of a number in upper case, with zeros in front up to `width`. -/
def upperDigits (width n : Nat) : String :=
  let shown := (Nat.toDigits 16 n).map Char.toUpper
  String.ofList (List.replicate (width - shown.length) '0' ++ shown)

/-- An address: `0x` and its digits. -/
def address (n : Nat) : String :=
  "0x" ++ digits n

/-- An address with zeros behind the mark, so that the text has at least `width` characters. -/
def paddedAddress (width n : Nat) : String :=
  let shown := Nat.toDigits 16 n
  "0x" ++ String.ofList (List.replicate (width - 2 - shown.length) '0' ++ shown)

end Hex

namespace Text

/-- Whether a code point is in the class that begins and ends at `turns`. -/
def between (turns : List Nat) (code : Nat) : Bool :=
  (turns.takeWhile (· ≤ code)).length % 2 == 1

/-- Whether a character has no picture of its own. -/
def hasNoPicture (c : Char) : Bool :=
  between unprintableTurns c.toNat || between joiningTurns c.toNat

/-- How a character is written between quotes. -/
def escaped (c : Char) : String :=
  match c with
  | '"' => "\\\""
  | '\\' => "\\\\"
  | '\n' => "\\n"
  | '\r' => "\\r"
  | '\t' => "\\t"
  | '\x00' => "\\0"
  | c => if hasNoPicture c then "\\u\x7b" ++ Hex.digits c.toNat ++ "\x7d" else c.toString

/-- The text between double quotes. -/
def quoted (text : String) : String :=
  "\"" ++ String.join (text.toList.map escaped) ++ "\""

end Text

end Landmark
