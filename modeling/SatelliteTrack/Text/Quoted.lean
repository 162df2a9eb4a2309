import SatelliteTrack.Text.Hidden

/-!
# Text quoted for a reader

`quoted` puts a text between double quotes so that a reader of a message sees every character of it:
the quote and the backslash are escaped, the common controls have letters of their own, and a
character that would not show is written by its number.
-/

namespace SatelliteTrack.Text

/-- Lowercase hexadecimal digits without leading zeros. -/
def hexNumber (n : Nat) : String :=
  String.ofList (Nat.toDigits 16 n)

/-- One character inside double quotes. -/
def quotedChar (c : Char) : String :=
  match c with
  | '\x00' => "\\0"
  | '\t' => "\\t"
  | '\n' => "\\n"
  | '\r' => "\\r"
  | '"' => "\\\""
  | '\\' => "\\\\"
  | _ => if isHidden c then "\\u\x7b" ++ hexNumber c.toNat ++ "\x7d" else String.singleton c

/-- The text between double quotes, every character visible. -/
def quoted (text : String) : String :=
  "\"" ++ String.join (text.toList.map quotedChar) ++ "\""

end SatelliteTrack.Text
