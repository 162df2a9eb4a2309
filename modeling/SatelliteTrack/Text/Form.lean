import SatelliteTrack.Text.Hex
import SatelliteTrack.Text.Pieces

/-!
# Names and values in a query

A query is a list of pairs: name and value are joined by `=`, pairs by `&`. Inside a name or a value
the letters, the digits and `*-._` stand for themselves, a space is a plus sign, and every other byte
is a percent sign with two uppercase digits. So neither separator is ever part of a value, and
reading a query back gives the pairs it was written from.
-/

namespace SatelliteTrack.Text.Form

/-- The byte stands for itself in a query. -/
def isPlain (b : UInt8) : Bool :=
  let c := Char.ofNat b.toNat
  c.isAlphanum || c == '*' || c == '-' || c == '.' || c == '_'

/-- A percent sign and two uppercase digits. -/
def percent (b : UInt8) : List Char :=
  '%' :: (hexByte b).map Char.toUpper

/-- One byte of a name or a value. -/
def encodeByte (b : UInt8) : List Char :=
  if isPlain b then [Char.ofNat b.toNat]
  else if b == 0x20 then ['+']
  else percent b

/-- A name or a value as it stands in a query. -/
def encode (text : String) : List Char :=
  (utf8 text).flatMap encodeByte

/-- A query of pairs. -/
def query (pairs : List (String × String)) : List Char :=
  List.intercalate ['&'] (pairs.map fun (name, value) => encode name ++ '=' :: encode value)

/-- The bytes of a name or a value read from a query. -/
def decodeBytes : List Char → Bytes
  | [] => []
  | '+' :: rest => 0x20 :: decodeBytes rest
  | '%' :: high :: low :: rest =>
    match hexValue? high, hexValue? low with
    | some h, some l => UInt8.ofNat (h * 16 + l) :: decodeBytes rest
    | _, _ => 0x25 :: decodeBytes (high :: low :: rest)
  | c :: rest => String.utf8EncodeChar c ++ decodeBytes rest

theorem decodeBytes_plus (rest : List Char) : decodeBytes ('+' :: rest) = 0x20 :: decodeBytes rest := by
  rw [decodeBytes]

theorem decodeBytes_plain {c : Char} (plus : c ≠ '+') (percent : c ≠ '%') (rest : List Char) :
    decodeBytes (c :: rest) = String.utf8EncodeChar c ++ decodeBytes rest := by
  rw [decodeBytes]
  · exact plus
  · exact fun _ _ _ same => absurd same percent

/-- One pair of a query; a pair without `=` has an empty value. -/
def pair? (cs : List Char) : Option (String × String) := do
  let name ← ofUtf8? (decodeBytes (cs.takeWhile (· ≠ '=')))
  let value ← ofUtf8? (decodeBytes ((cs.dropWhile (· ≠ '=')).drop 1))
  return (name, value)

/-- The pairs that a query holds. -/
def pairs? (cs : List Char) : Option (List (String × String)) :=
  (pieces '&' cs).mapM pair?

end SatelliteTrack.Text.Form
