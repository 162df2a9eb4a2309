import SatelliteTrack.Text.Form
import SatelliteTrack.Text.Pieces

/-!
# Web addresses

An address has a scheme, an authority, a path and perhaps a query; a fragment is dropped, since it is
never sent. `Url.ofText?` brings the path into the form in which it is sent: segments of one or two
dots are resolved, and bytes that may not stand in a path are written as percent signs with two digits.
-/

namespace SatelliteTrack

/-- An address of a web server. -/
structure Url where
  secure : Bool
  authority : List Char
  /-- The segments of the path, each behind a slash. -/
  segments : List (List Char)
  query : Option (List Char)
deriving DecidableEq, Repr

namespace Url

/-- The text after a beginning that it has, letters of either case. -/
def dropScheme? (scheme : String) (cs : List Char) : Option (List Char) :=
  let n := scheme.length
  if String.ofList ((cs.take n).map Char.toLower) = scheme then some (cs.drop n) else none

/-- The character ends the authority. -/
def endsAuthority (c : Char) : Bool := c == '/' || c == '\\' || c == '?' || c == '#'

/-- The character can stand in the name of a host. -/
def isHostChar (c : Char) : Bool :=
  c.toNat > 0x7f || c.isAlphanum || c == '-' || c == '.' || c == '_' || c == '~' || c == '%' || c == '!' ||
    c == '$' || c == '&' || c.toNat == 0x27 || c == '(' || c == ')' || c == '*' || c == '+' || c == ',' || c == ';' ||
    c == '='

/-- The text after the colon is a port. -/
def isPort (cs : List Char) : Bool :=
  cs.all Char.isDigit && cs.foldl (fun n c => n * 10 + (c.toNat - '0'.toNat)) 0 < 0x10000

/-- The authority, its user name aside, is a host and perhaps a port. -/
def isAuthority (cs : List Char) : Bool :=
  let cs := (Text.pieces '@' cs).getLastD []
  match cs with
  | '[' :: rest =>
    let host := rest.takeWhile (· ≠ ']')
    let after := rest.drop host.length
    !host.isEmpty && host.all (fun c => c.isDigit || ('a' ≤ c.toLower && c.toLower ≤ 'f') || c == ':' || c == '.') &&
      match after with
      | [']'] => true
      | ']' :: ':' :: port => isPort port
      | _ => false
  | _ =>
    let host := cs.takeWhile (· ≠ ':')
    !host.isEmpty && host.all isHostChar && isPort ((cs.drop host.length).drop 1)

/-- The byte stands for itself in a path. -/
def isPathByte (b : UInt8) : Bool :=
  0x20 < b && b < 0x7f && !("\"#<>?^`\x7b\x7d".toList.any fun c => c.toNat == b.toNat)

/-- The byte stands for itself in a query. -/
def isQueryByte (b : UInt8) : Bool :=
  0x20 < b && b < 0x7f && !("\"#<>'".toList.any fun c => c.toNat == b.toNat)

/-- A text with the bytes escaped that do not stand for themselves. -/
def escape (standsForItself : UInt8 → Bool) (cs : List Char) : List Char :=
  (Text.utf8 (String.ofList cs)).flatMap fun b =>
    if standsForItself b then [Char.ofNat b.toNat] else Text.Form.percent b

/-- The segment stands for the directory itself. -/
def isDot (segment : List Char) : Bool :=
  let s := String.ofList (segment.map Char.toLower)
  s == "." || s == "%2e"

/-- The segment stands for the directory above. -/
def isDoubleDot (segment : List Char) : Bool :=
  let s := String.ofList (segment.map Char.toLower)
  s == ".." || s == ".%2e" || s == "%2e." || s == "%2e%2e"

/-- The segments of a path without those of one or two dots; one of them at the end leaves an empty
segment there. -/
def resolve : (kept : List (List Char)) → List (List Char) → List (List Char)
  | kept, [] => kept
  | kept, segment :: rest =>
    let last := if rest.isEmpty then [[]] else []
    if isDot segment then resolve (kept ++ last) rest
    else if isDoubleDot segment then resolve (kept.dropLast ++ last) rest
    else resolve (kept ++ [segment]) rest

/-- The path after the authority, as segments. -/
def segmentsOf (path : List Char) : List (List Char) :=
  let path := path.map fun c => if c = '\\' then '/' else c
  let path := if path.head? = some '/' then path.drop 1 else path
  (resolve [] (Text.pieces '/' path)).map (escape isPathByte)

/-- The address that a text names, if it is one of a web server. -/
def ofText? (text : String) : Option Url := do
  let cs := text.toList
  let (secure, cs) ←
    match dropScheme? "http://" cs, dropScheme? "https://" cs with
    | some rest, _ => some (false, rest)
    | none, some rest => some (true, rest)
    | none, none => none
  let authority := cs.takeWhile fun c => !endsAuthority c
  guard (isAuthority authority)
  let cs := (cs.drop authority.length).takeWhile (· ≠ '#')
  let path := cs.takeWhile (· ≠ '?')
  let query := match cs.drop path.length with
    | [] => none
    | _ :: query => some (escape isQueryByte query)
  return { secure, authority, segments := segmentsOf path, query }

/-- The path as it is sent. -/
def path (url : Url) : List Char := url.segments.flatMap fun segment => '/' :: segment

/-- The path with the query of the address and further pairs. -/
def target (url : Url) (pairs : List (String × String)) : List Char :=
  let before := match url.query with
    | none => []
    | some [] => []
    | some query => query ++ ['&']
  url.path ++ '?' :: before ++ Text.Form.query pairs

end Url

end SatelliteTrack
