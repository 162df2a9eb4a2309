import SatelliteTrack.Json.Parser

/-!
# Passing over a value

A value that nobody asks for is passed over: its syntax is checked, but its strings and numbers are
not valued, and it may be as deep as it likes. So the brackets that are open are kept in a list instead
of in the depth of a recursion.

The commas are read differently here: a comma is followed by an item at once, so that a bracket after
it is not a comma too many but a missing value, or a key that is no string.
-/

namespace SatelliteTrack.Json.Scan

/-- An open bracket. -/
inductive Frame where
  | list
  | object
deriving DecidableEq, Repr

namespace Frame

def close : Frame → Char
  | .list => ']'
  | .object => '\x7d'

/-- The text ends inside the brackets. -/
def atEnd : Frame → Fault
  | .list => .endOfList
  | .object => .endOfObject

/-- Something else stands where a comma or the closing bracket is due. -/
def noComma : Frame → Fault
  | .list => .expectedListCommaOrEnd
  | .object => .expectedObjectCommaOrEnd

/-- The text up to the value of an item: nothing in a list, key and colon in an object. -/
def beforeValue : Frame → List Char → Except Fault (List Char)
  | .list, cs => .ok cs
  | .object, cs =>
    match skipSpace cs with
    | [] => .error .endOfObject
    | c :: rest =>
      if c = '"' then
        match passString 0 rest with
        | .error fault => .error fault
        | .ok rest => colon rest
      else .error .keyMustBeString

end Frame

/-- Where the text stands: before a value, past an opening bracket, or past a value. -/
inductive Place where
  | before
  | opened
  | past
deriving DecidableEq, Repr

/-- The text after a value that is not a list or an object. -/
def passWord : List Char → Except Fault (List Char)
  | [] => .error .endOfValue
  | c :: rest =>
    if c = 'n' then keyword ['u', 'l', 'l'] rest
    else if c = 't' then keyword ['r', 'u', 'e'] rest
    else if c = 'f' then keyword ['a', 'l', 's', 'e'] rest
    else if c = '"' then passString 0 rest
    else if c = '-' ∨ c.isDigit then passNumber (c :: rest)
    else .error .expectedValue

/-- The text after the value or the values that the open brackets still want. A round that takes no
character is followed by one that does, so that twice the length of the text bounds the steps. -/
def pass : (steps : Nat) → Place → List Frame → List Char → Except Fault (List Char)
  | 0, _, _, _ => .error .endOfValue
  | _ + 1, .past, [], cs => .ok cs
  | steps + 1, .before, frames, cs =>
    match skipSpace cs with
    | [] => .error .endOfValue
    | c :: rest =>
      if c = '[' then pass steps .opened (.list :: frames) rest
      else if c = '\x7b' then pass steps .opened (.object :: frames) rest
      else
        match passWord (c :: rest) with
        | .error fault => .error fault
        | .ok rest => pass steps .past frames rest
  | _ + 1, .opened, [], cs => .ok cs
  | steps + 1, .opened, frame :: frames, cs =>
    match skipSpace cs with
    | [] => .error frame.atEnd
    | c :: rest =>
      if c = frame.close then pass steps .past frames rest
      else
        match frame.beforeValue (c :: rest) with
        | .error fault => .error fault
        | .ok rest => pass steps .before (frame :: frames) rest
  | steps + 1, .past, frame :: frames, cs =>
    match skipSpace cs with
    | [] => .error frame.atEnd
    | c :: rest =>
      if c = frame.close then pass steps .past frames rest
      else if c = ',' then
        match frame.beforeValue rest with
        | .error fault => .error fault
        | .ok rest => pass steps .before (frame :: frames) rest
      else .error frame.noComma

/-- When no bracket is open the value is over. -/
theorem pass_done (steps : Nat) (cs : List Char) : pass (steps + 1) .past [] cs = .ok cs := by rw [pass]

/-- The text after the value at its front, for a text of fewer characters than `rounds`. -/
def passValue (rounds : Nat) (cs : List Char) : Except Fault (List Char) :=
  pass (2 * rounds) .before [] cs

end SatelliteTrack.Json.Scan
