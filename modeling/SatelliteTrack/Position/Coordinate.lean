import SatelliteTrack.Decimal.Layout

/-!
# Coordinates

A point is a latitude and a longitude in degrees. `Point.fault?` says which of the two is out of range,
the latitude first; the value that is no number is out of every range. `mean` is the plain average of
one axis, added up in order from zero.
-/

namespace SatelliteTrack

/-- A position in degrees. -/
structure Point where
  latitude : Float
  longitude : Float

/-- A coordinate out of its range. -/
inductive CoordinateFault where
  | latitude (x : Float)
  | longitude (x : Float)

def CoordinateFault.message : CoordinateFault → String
  | .latitude x => "latitude " ++ Decimal.plain.text x
  | .longitude x => "longitude " ++ Decimal.plain.text x

/-- The number is between `-limit` and `limit`, both included. -/
def withinLimit (limit x : Float) : Bool := -limit ≤ x && x ≤ limit

/-- The first coordinate that is out of range. -/
def Point.fault? (p : Point) : Option CoordinateFault :=
  if !withinLimit 90.0 p.latitude then some (.latitude p.latitude)
  else if !withinLimit 180.0 p.longitude then some (.longitude p.longitude)
  else none

/-- The average of one axis; none without values. -/
def mean (values : List Float) : Option Float :=
  if values.isEmpty then none
  else some (values.foldl (· + ·) 0.0 / values.length.toUInt64.toFloat)

end SatelliteTrack
