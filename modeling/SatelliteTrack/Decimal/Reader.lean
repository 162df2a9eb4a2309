/-!
# Reading a decimal number

`Decimal.read?` accepts an optional sign, digits with an optional point, and an optional exponent;
`inf`, `infinity` and `nan` stand for the values without digits, in any case. The answer is the double
nearest to the written number.
-/

namespace SatelliteTrack.Decimal

/-- The value of a run of decimal digits, after `start`. -/
def digitsValue (start : Nat) (digits : List Char) : Nat :=
  digits.foldl (fun n c => n * 10 + (c.toNat - '0'.toNat)) start

/-- An exponent: an optional sign and at least one digit. -/
def readExponent? : List Char → Option Int
  | '-' :: cs => (unsigned? cs).map fun n => -(n : Int)
  | '+' :: cs => (unsigned? cs).map fun n => (n : Int)
  | cs => (unsigned? cs).map fun n => (n : Int)
where
  unsigned? (cs : List Char) : Option Nat :=
    if !cs.isEmpty && cs.all Char.isDigit then some (digitsValue 0 cs) else none

/-- The double nearest to `n · 10 ^ e`. A number far outside the range of doubles is settled by its
size, so that no huge power is computed. -/
def nearest (n : Nat) (e : Int) : Float :=
  let size := (Nat.toDigits 10 n).length + e
  if n = 0 ∨ size < -400 then 0.0
  else if 400 < size then 1.0 / 0.0
  else Float.ofScientific n (e < 0) e.natAbs

/-- Digits, an optional point with digits, an optional exponent; at least one digit before the
exponent. -/
def readUnsigned? (cs : List Char) : Option Float :=
  let whole := cs.takeWhile Char.isDigit
  let afterWhole := cs.dropWhile Char.isDigit
  let (fraction, rest) := match afterWhole with
    | '.' :: more => (more.takeWhile Char.isDigit, more.dropWhile Char.isDigit)
    | _ => ([], afterWhole)
  let n := digitsValue 0 (whole ++ fraction)
  if whole.isEmpty && fraction.isEmpty then none
  else match rest with
    | [] => some (nearest n (-(fraction.length : Int)))
    | mark :: more =>
      if mark = 'e' ∨ mark = 'E' then
        (readExponent? more).map fun e => nearest n (e - fraction.length)
      else none

/-- The double that a text stands for. -/
def read? (text : String) : Option Float :=
  let (negative, cs) := match text.toList with
    | '-' :: cs => (true, cs)
    | '+' :: cs => (false, cs)
    | cs => (false, cs)
  let size? := match String.ofList (cs.map Char.toLower) with
    | "inf" => some (1.0 / 0.0)
    | "infinity" => some (1.0 / 0.0)
    | "nan" => some (0.0 / 0.0)
    | _ => readUnsigned? cs
  size?.map fun x => if negative then -x else x

end SatelliteTrack.Decimal
