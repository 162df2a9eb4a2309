import SatelliteTrack.Json.Skip
import SatelliteTrack.Message

/-!
# The message list

The message service answers with a JSON list. An element is an object with the members `data`,
`latitude`, `longitude` and `createdDate`, in any order and among any others, or a list of just these
four. The two coordinates may be null or missing. The whole list is read before any payload is decoded
from base64, so a fault of the list wins over a fault of a payload, wherever the two stand.
-/

namespace SatelliteTrack

namespace Json.Scan

/-! ## Fields -/

/-- What stands in the text in place of a wanted value; of a list or an object only the first bracket
is read. -/
def found (cs : List Char) : Except Fault Found :=
  match cs with
  | [] => .error .endOfValue
  | c :: rest =>
    if c = 'n' then (keyword ['u', 'l', 'l'] rest).map fun _ => .null
    else if c = 't' then (keyword ['r', 'u', 'e'] rest).map fun _ => .bool true
    else if c = 'f' then (keyword ['a', 'l', 's', 'e'] rest).map fun _ => .bool false
    else if c = '"' then (string rest).map fun (s, _) => .string s
    else if c = '-' ∨ c.isDigit then (number (c :: rest)).map fun (n, _) => .number n
    else if c = '[' then .ok .sequence
    else if c = '\x7b' then .ok .map
    else .error .expectedValue

/-- The fault of a text that does not begin with the wanted value. -/
def refusal (wanted : Expected) (cs : List Char) : Fault :=
  match found cs with
  | .error fault => fault
  | .ok value => .invalidType value wanted

/-- A string after blanks. -/
def stringField (cs : List Char) : Scan String :=
  match skipSpace cs with
  | '"' :: rest => string rest
  | cs => .error (refusal .string cs)

/-- A double or null after blanks. -/
def coordinateField (cs : List Char) : Scan (Option Float) :=
  match skipSpace cs with
  | [] => .error .endOfValue
  | c :: rest =>
    if c = 'n' then (keyword ['u', 'l', 'l'] rest).map fun rest => (none, rest)
    else if c = '-' ∨ c.isDigit then
      (number (c :: rest)).map fun (n, rest) => (some n.toFloat, rest)
    else .error (refusal .number (c :: rest))

end Json.Scan

/-! ## Elements -/

/-- An element of the list, its payload still in base64. -/
structure FeedEntry where
  data : String
  latitude : Option Float
  longitude : Option Float
  created : String

namespace FeedEntry

open Json Json.Scan

/-- The members of an object that have been read so far. -/
structure Fields where
  data : Option String := none
  latitude : Option (Option Float) := none
  longitude : Option (Option Float) := none
  created : Option String := none

/-- The value of a member: it is refused if the member has been there before. -/
def once {α : Type} (name : String) (before : Option α) (field : List Char → Scan α)
    (cs : List Char) : Scan α :=
  if before.isSome then .error (.duplicateField name)
  else
    match colon cs with
    | .error fault => .error fault
    | .ok rest => field rest

/-- A member joins those before it; one with another name is passed over. -/
def Fields.member (rounds : Nat) (key : String) (fields : Fields) (cs : List Char) : Scan Fields :=
  if key = "data" then
    (once key fields.data stringField cs).map fun (x, rest) => ({ fields with data := some x }, rest)
  else if key = "latitude" then
    (once key fields.latitude coordinateField cs).map
      fun (x, rest) => ({ fields with latitude := some x }, rest)
  else if key = "longitude" then
    (once key fields.longitude coordinateField cs).map
      fun (x, rest) => ({ fields with longitude := some x }, rest)
  else if key = "createdDate" then
    (once key fields.created stringField cs).map
      fun (x, rest) => ({ fields with created := some x }, rest)
  else
    match colon cs with
    | .error fault => .error fault
    | .ok rest => (passValue rounds rest).map fun rest => (fields, rest)

/-- The element of the members of an object. -/
def ofFields (fields : Fields) : Except Fault FeedEntry :=
  match fields.data, fields.created with
  | none, _ => .error (.missingField "data")
  | some _, none => .error (.missingField "createdDate")
  | some data, some created =>
    .ok { data, created, latitude := fields.latitude.join, longitude := fields.longitude.join }

/-- An element that is an object, past its bracket. -/
def ofObject (rounds : Nat) (cs : List Char) : Scan FeedEntry :=
  match members (Fields.member rounds) rounds true {} cs with
  | .error fault => .error fault
  | .ok (fields, rest) => (ofFields fields).map fun entry => (entry, rest)

/-- The next item of an element that is a list, if there is one. -/
def nextField {α : Type} (first : Bool) (field : List Char → Scan α) (cs : List Char) :
    Scan (Option α) :=
  match nextItem first cs with
  | .error fault => .error fault
  | .ok (.closed _) => .ok (none, cs)
  | .ok (.item rest) => (field rest).map fun (x, rest) => (some x, rest)

/-- The end of an element that is a list of four. -/
def closeList (cs : List Char) : Except Fault (List Char) :=
  match skipSpace cs with
  | [] => .error .endOfList
  | c :: rest =>
    if c = ']' then .ok rest
    else if c = ',' ∧ (skipSpace rest).head? = some ']' then .error .trailingComma
    else .error .trailingCharacters

/-- An element that is a list, past its bracket. -/
def ofList (cs : List Char) : Except Fault (FeedEntry × List Char) := do
  let (data, cs) ← nextField true stringField cs
  let some data := data | throw (.invalidLength 0)
  let (latitude, cs) ← nextField false coordinateField cs
  let (longitude, cs) ← nextField false coordinateField cs
  let (created, cs) ← nextField false stringField cs
  let some created := created | throw (.invalidLength 3)
  let rest ← closeList cs
  return ({ data, latitude := latitude.join, longitude := longitude.join, created }, rest)

/-- An element at the front of a text of fewer characters than `rounds`. -/
def scan (rounds : Nat) (cs : List Char) : Scan FeedEntry :=
  match skipSpace cs with
  | [] => .error .endOfValue
  | c :: rest =>
    if c = '\x7b' then ofObject rounds rest
    else if c = '[' then ofList rest
    else .error (refusal .entry (c :: rest))

/-- The message of an element. -/
def toMessage (entry : FeedEntry) : Except ResponseFault Message :=
  match Base64.decode entry.data with
  | .error fault => .error (.messageData entry.data fault)
  | .ok payload =>
    .ok { payload, latitude := entry.latitude, longitude := entry.longitude, created := entry.created }

end FeedEntry

/-! ## The list -/

namespace MessageList

open Json Json.Scan

/-- The elements that a whole text lists. -/
def entries (cs : List Char) : Except Fault (List FeedEntry) :=
  match skipSpace cs with
  | [] => .error .endOfValue
  | c :: rest =>
    if c = '[' then
      match items (FeedEntry.scan (rest.length + 1)) (rest.length + 1) [] rest with
      | .error fault => .error fault
      | .ok (xs, rest) => if (skipSpace rest).isEmpty then .ok xs else .error .trailingCharacters
    else .error (refusal .sequence (c :: rest))

/-- The messages of elements, up to the first payload that is not base64. -/
def messages : List FeedEntry → Except ResponseFault (List Message)
  | [] => .ok []
  | entry :: rest =>
    match entry.toMessage with
    | .error fault => .error fault
    | .ok message => (messages rest).map (message :: ·)

/-- The messages that a response lists. -/
def ofText (body : String) : Except ResponseFault (List Message) :=
  match entries body.toList with
  | .error fault => .error (.messageList fault)
  | .ok xs => messages xs

/-- The report of elements: a line for each message, up to the first payload that is not base64. -/
def entriesReport : List FeedEntry → List LogLine
  | [] => []
  | entry :: rest =>
    match entry.toMessage with
    | .error _ => []
    | .ok message => .messageCreated message.created message.payload.length :: entriesReport rest

/-- What reading a response reports. -/
def report (body : String) : List LogLine :=
  match entries body.toList with
  | .error _ => []
  | .ok xs => entriesReport xs

end MessageList

end SatelliteTrack
