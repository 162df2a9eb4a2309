import SatelliteTrack.Json.Fault

/-!
# Writing JSON

Values are written without blanks, the members of an object in their order. In a string the quote and
the backslash are escaped, the controls that have a letter are written with it and the others by
number; nothing else is escaped.
-/

namespace SatelliteTrack.Json

/-- One character of a string. -/
def escapedChar (c : Char) : List Char :=
  match c with
  | '"' => ['\\', '"']
  | '\\' => ['\\', '\\']
  | '\x08' => ['\\', 'b']
  | '\x0c' => ['\\', 'f']
  | '\n' => ['\\', 'n']
  | '\r' => ['\\', 'r']
  | '\t' => ['\\', 't']
  | _ =>
    if c.toNat < 0x20 then
      ['\\', 'u', '0', '0', Nat.digitChar (c.toNat / 16), Nat.digitChar (c.toNat % 16)]
    else [c]

/-- The characters between the quotes of a string. -/
def escaped (s : String) : List Char := s.toList.flatMap escapedChar

/-- A string with its quotes. -/
def stringText (s : String) : String :=
  "\"" ++ String.ofList (escaped s) ++ "\""

mutual

/-- The text of a value. -/
def text : Json → String
  | .null => "null"
  | .bool b => if b then "true" else "false"
  | .number n => n.text
  | .string s => stringText s
  | .array items => "[" ++ ",".intercalate (texts items) ++ "]"
  | .object members => "\x7b" ++ ",".intercalate (memberTexts members) ++ "\x7d"

/-- The texts of the items of a list. -/
def texts : List Json → List String
  | [] => []
  | x :: rest => x.text :: texts rest

/-- The texts of the members of an object. -/
def memberTexts : List (String × Json) → List String
  | [] => []
  | (key, v) :: rest => (stringText key ++ ":" ++ v.text) :: memberTexts rest

end

end SatelliteTrack.Json
