/-!
# JSON values

A number is kept as it was written: a natural number, a negative whole number, or a double. An object
holds its members in the order of their keys, each key once.
-/

namespace SatelliteTrack

/-- A JSON number. -/
inductive Json.Number where
  | natural (n : Nat)
  /-- The whole number `-n`. -/
  | negative (n : Nat)
  | real (x : Float)

/-- A JSON value. -/
inductive Json where
  | null
  | bool (b : Bool)
  | number (n : Json.Number)
  | string (s : String)
  | array (items : List Json)
  | object (members : List (String × Json))

namespace Json

/-- The double nearest to a number. -/
def Number.toFloat : Number → Float
  | .natural n => n.toUInt64.toFloat
  | .negative n => -n.toUInt64.toFloat
  | .real x => x

/-- The members with one more: in the order of the keys, and in place of a member of the same key. -/
def insertMember (key : String) (value : Json) : List (String × Json) → List (String × Json)
  | [] => [(key, value)]
  | (k, v) :: rest =>
    if key < k then (key, value) :: (k, v) :: rest
    else if key = k then (key, value) :: rest
    else (k, v) :: insertMember key value rest

/-- An object of members given in any order; the last of several with one key counts. -/
def ofMembers (members : List (String × Json)) : Json :=
  .object (members.foldl (fun sorted (key, value) => insertMember key value sorted) [])

/-- The member of an object under a key. -/
def member? (key : String) : Json → Option Json
  | .object members => (members.find? fun (k, _) => k == key).map Prod.snd
  | _ => none

end Json

end SatelliteTrack
