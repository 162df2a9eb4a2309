import SatelliteTrack.Decimal.Shortest

/-!
# How a decimal is laid out

Which digits are shown is settled by `Binary.shortest`. A `Layout` holds every other decision of an
output format: where positional notation ends, how an exponent is written, what stands for the values
that have no digits. Each format of the program is one `Layout` value, kept where the format is
written.
-/

namespace SatelliteTrack.Decimal

/-- The decisions of one number format. The place of a number is `k` with `10 ^ (k - 1) ≤ x < 10 ^ k`. -/
structure Layout where
  /-- The least and the greatest place that are written positionally; no bound means always. -/
  positional : Option (Int × Int)
  /-- A whole number ends in `.0`. -/
  wholePoint : Bool
  /-- A positive exponent carries its sign. -/
  exponentPlus : Bool
  /-- The choice between two decimals that are equally near. -/
  tie : Tie
  notANumber : String
  infinite : String
  negativeInfinite : String
deriving Repr

/-- Digits before and after the point, in positional notation. -/
def positionalText (wholePoint : Bool) (digits : String) (place : Int) : String :=
  if place ≤ 0 then
    "0." ++ String.ofList (List.replicate (-place).toNat '0') ++ digits
  else if digits.length ≤ place.toNat then
    digits ++ String.ofList (List.replicate (place.toNat - digits.length) '0') ++
      (if wholePoint then ".0" else "")
  else
    String.ofList (digits.toList.take place.toNat) ++ "." ++
      String.ofList (digits.toList.drop place.toNat)

/-- One digit, the rest after the point, and the exponent of the first digit. -/
def exponentText (plus : Bool) (digits : String) (place : Int) : String :=
  let lead := String.ofList (digits.toList.take 1)
  let rest := String.ofList (digits.toList.drop 1)
  lead ++ (if rest.isEmpty then "" else "." ++ rest) ++ "e" ++
    (if place < 1 then "-" else if plus then "+" else "") ++ toString (place - 1).natAbs

namespace Layout

/-- The text of a size, without sign. -/
def sizeText (layout : Layout) (x : Binary) : String :=
  if x.mantissa = 0 then
    if layout.wholePoint then "0.0" else "0"
  else
    let d := x.shortest layout.tie
    let digits := toString d.digits
    let place := d.exponent + digits.length
    let inRange := match layout.positional with
      | none => true
      | some (least, greatest) => least ≤ place && place ≤ greatest
    if inRange then positionalText layout.wholePoint digits place
    else exponentText layout.exponentPlus digits place

/-- The text of a double. -/
def text (layout : Layout) (x : Float) : String :=
  match Reading.ofFloat x with
  | .notANumber => layout.notANumber
  | .infinite negative => if negative then layout.negativeInfinite else layout.infinite
  | .finite negative size => (if negative then "-" else "") ++ layout.sizeText size

end Layout

/-- Numbers that stay recognisable as fractional: a whole number keeps its `.0`, and an exponent is
used below `0.0001` and from `10 ^ 16` on. -/
def fractional : Layout where
  positional := some (-3, 16)
  wholePoint := true
  exponentPlus := false
  tie := .up
  notANumber := "NaN"
  infinite := "inf"
  negativeInfinite := "-inf"

/-- Numbers as read aloud: every digit is written out, never an exponent, and a whole number has no
point. -/
def plain : Layout where
  positional := none
  wholePoint := false
  exponentPlus := false
  tie := .up
  notANumber := "NaN"
  infinite := "inf"
  negativeInfinite := "-inf"

end SatelliteTrack.Decimal
