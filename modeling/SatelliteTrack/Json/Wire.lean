import SatelliteTrack.Json.Parser

/-!
# JSON in bytes

A payload is read as the text that its bytes encode. Bytes that encode no text matter only where the
reader comes to them: outside a string they are no JSON, like any strange character; inside a string
they are refused when the string closes, after any other fault of that string.
-/

namespace SatelliteTrack.Json

/-- The character that the bytes begin with, and how many bytes it takes. -/
def firstChar? (bytes : Bytes) : Option (Char × Nat) :=
  [1, 2, 3, 4].findSome? fun n =>
    (Text.ofUtf8? (bytes.take n)).bind fun s =>
      match s.toList with
      | [c] => some (c, n)
      | _ => none

/-- The longest text that the bytes begin with, and the bytes after it. -/
def textPrefix : Bytes → List Char × Bytes
  | [] => ([], [])
  | b :: rest =>
    match firstChar? (b :: rest) with
    | none => ([], b :: rest)
    | some (c, n) =>
      let (cs, left) := textPrefix (rest.drop (n - 1))
      (c :: cs, left)
termination_by bytes => bytes.length
decreasing_by simp only [List.length_drop, List.length_cons]; omega

/-- The character that stands for bytes that encode none. -/
def replacement : Char := '\ufffd'

/-- The text of bytes, with a replacement for each byte that is part of no character. -/
def lossyText : Bytes → List Char
  | [] => []
  | b :: rest =>
    match firstChar? (b :: rest) with
    | none => replacement :: lossyText rest
    | some (c, n) => c :: lossyText (rest.drop (n - 1))
termination_by bytes => bytes.length
decreasing_by all_goals simp only [List.length_drop, List.length_cons]; omega

/-- The fault of a text whose character after `read` stands for bytes that encode none. As long as the
text ends inside a string, one more character of it is looked at; once the string has closed, the text
ends in a list, in an object or as a whole value. -/
def strayFault (read : List Char) : List Char → Fault
  | [] => .endOfString
  | c :: cs =>
    let read := read ++ [c]
    match ofChars read with
    | .error .endOfString => strayFault read cs
    | .error .endOfList => .invalidCodePoint
    | .error .endOfObject => .invalidCodePoint
    | .ok _ => .invalidCodePoint
    | .error fault => fault

/-- The value that a payload is. -/
def ofBytes (bytes : Bytes) : Except Fault Json :=
  match Text.ofUtf8? bytes with
  | some text => ofText text
  | none =>
    let (read, left) := textPrefix bytes
    .error (strayFault read (lossyText left))

end SatelliteTrack.Json
