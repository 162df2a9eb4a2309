import SatelliteTrack.Json.Scanner

/-!
# Reading JSON

A list or an object is read by its separators: `nextItem` and `nextMember` say where the text stands
before each item, and `items` and `members` repeat them with a reader for what stands between. So the
rules of commas and brackets are written once, for values of any kind and for the typed readers of
other modules.

`value` reads any value, at most `depthLimit` brackets deep. Each round takes at least one character,
so the length of the text bounds the rounds; `ofText` starts with that many.
-/

namespace SatelliteTrack.Json

namespace Scan

/-- Where a text stands between the items of a list or an object: past the closing bracket, or before
an item. -/
inductive Next where
  | closed (rest : List Char)
  | item (rest : List Char)

/-- The next item of a list. `first` says that none has been read yet, so that no comma is due. -/
def nextItem (first : Bool) (cs : List Char) : Except Fault Next :=
  match skipSpace cs with
  | [] => .error .endOfList
  | c :: rest =>
    if c = ']' then .ok (.closed rest)
    else if first then .ok (.item (c :: rest))
    else if c = ',' then
      match skipSpace rest with
      | [] => .error .endOfValue
      | d :: more => if d = ']' then .error .trailingComma else .ok (.item (d :: more))
    else .error .expectedListCommaOrEnd

/-- The next member of an object, past the opening quote of its key. -/
def nextMember (first : Bool) (cs : List Char) : Except Fault Next :=
  match skipSpace cs with
  | [] => .error .endOfObject
  | c :: rest =>
    if c = '\x7d' then .ok (.closed rest)
    else if first then
      if c = '"' then .ok (.item rest) else .error .keyMustBeString
    else if c = ',' then
      match skipSpace rest with
      | [] => .error .endOfValue
      | d :: more =>
        if d = '"' then .ok (.item more)
        else if d = '\x7d' then .error .trailingComma
        else .error .keyMustBeString
    else .error .expectedObjectCommaOrEnd

/-- The text after the colon of a member. -/
def colon (cs : List Char) : Except Fault (List Char) :=
  match skipSpace cs with
  | [] => .error .endOfObject
  | c :: rest => if c = ':' then .ok rest else .error .expectedColon

/-- The items of a list up to its end; `read` holds those before, the last one first. -/
def items {α : Type} (item : List Char → Scan α) : (rounds : Nat) → (read : List α) →
    List Char → Scan (List α)
  | 0, _, _ => .error .endOfList
  | rounds + 1, read, cs =>
    match nextItem read.isEmpty cs with
    | .error fault => .error fault
    | .ok (.closed rest) => .ok (read.reverse, rest)
    | .ok (.item rest) =>
      match item rest with
      | .error fault => .error fault
      | .ok (x, rest) => items item rounds (x :: read) rest

/-- The members of an object up to its end. Each one changes a state, given its key and the text after
the key. -/
def members {σ : Type} (member : String → σ → List Char → Scan σ) : (rounds : Nat) →
    (first : Bool) → σ → List Char → Scan σ
  | 0, _, _, _ => .error .endOfObject
  | rounds + 1, first, state, cs =>
    match nextMember first cs with
    | .error fault => .error fault
    | .ok (.closed rest) => .ok (state, rest)
    | .ok (.item rest) =>
      match string rest with
      | .error fault => .error fault
      | .ok (key, rest) =>
        match member key state rest with
        | .error fault => .error fault
        | .ok (state, rest) => members member rounds false state rest

/-- The rest of a member after its key: a colon and a value, which joins the members before it. -/
def member (value : List Char → Scan Json) (key : String) (sorted : List (String × Json))
    (cs : List Char) : Scan (List (String × Json)) :=
  match colon cs with
  | .error fault => .error fault
  | .ok rest => (value rest).map fun (v, rest) => (insertMember key v sorted, rest)

end Scan

/-- How many brackets a value may stand in. -/
def depthLimit : Nat := 127

/-- Any value at the front of a text that stands in no more than `depth` further brackets. -/
def Scan.value (rounds : Nat) : (depth : Nat) → List Char → Scan Json
  | depth, cs =>
    match skipSpace cs with
    | [] => .error .endOfValue
    | c :: rest =>
      if c = 'n' then (keyword ['u', 'l', 'l'] rest).map fun rest => (.null, rest)
      else if c = 't' then (keyword ['r', 'u', 'e'] rest).map fun rest => (.bool true, rest)
      else if c = 'f' then (keyword ['a', 'l', 's', 'e'] rest).map fun rest => (.bool false, rest)
      else if c = '"' then (string rest).map fun (s, rest) => (.string s, rest)
      else if c = '-' ∨ c.isDigit then (number (c :: rest)).map fun (n, rest) => (.number n, rest)
      else if c = '[' then
        match depth with
        | 0 => .error .recursionLimit
        | depth + 1 =>
          (items (value rounds depth) rounds [] rest).map fun (xs, rest) => (.array xs, rest)
      else if c = '\x7b' then
        match depth with
        | 0 => .error .recursionLimit
        | depth + 1 =>
          (members (member (value rounds depth)) rounds true [] rest).map
            fun (sorted, rest) => (.object sorted, rest)
      else .error .expectedValue

/-- The value that a whole text is. -/
def ofChars (cs : List Char) : Except Fault Json :=
  match Scan.value (cs.length + 1) depthLimit cs with
  | .error fault => .error fault
  | .ok (v, rest) => if (Scan.skipSpace rest).isEmpty then .ok v else .error .trailingCharacters

/-- The value that a text is. -/
def ofText (text : String) : Except Fault Json :=
  ofChars text.toList

end SatelliteTrack.Json
