import SatelliteTrack.Decimal.Binary

/-!
# A fixed number of decimal places

The exact value of a double, rounded to a number of decimal places; a value exactly between two
neighbours goes to the even one. The sign is kept also when the rounded digits are all zero.
-/

namespace SatelliteTrack.Decimal

/-- The quotient rounded to the nearest whole number, a half to the even one. -/
def roundQuotient (num den : Nat) : Nat :=
  let q := num / den
  match compare (2 * (num % den)) den with
  | .lt => q
  | .gt => q + 1
  | .eq => if q % 2 == 0 then q else q + 1

/-- A whole number of `10 ^ -places`, written with a point. -/
def placesText (places n : Nat) : String :=
  let fraction := toString (n % Nat.pow 10 places)
  toString (n / Nat.pow 10 places) ++ "." ++
    String.ofList (List.replicate (places - fraction.length) '0') ++ fraction

/-- The text of a double with a fixed number of decimal places. -/
def fixedText (places : Nat) (x : Float) : String :=
  match Reading.ofFloat x with
  | .notANumber => "NaN"
  | .infinite negative => if negative then "-inf" else "inf"
  | .finite negative size =>
    let (num, den) := size.fraction
    (if negative then "-" else "") ++ placesText places (roundQuotient (num * Nat.pow 10 places) den)

end SatelliteTrack.Decimal
