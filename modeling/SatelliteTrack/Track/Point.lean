import SatelliteTrack.Position.Coordinate
import SatelliteTrack.Calendar

/-!
# Track points

What is known about the tracker at one moment. Every field may be unset. A point is complete, and goes
into a track, once it has a latitude.
-/

namespace SatelliteTrack

/-- A decoded location of the tracker with its telemetry. -/
structure TrackPoint where
  latitude : Option Float := none
  longitude : Option Float := none
  /-- Volts. -/
  battery : Option Float := none
  /-- Degrees Celsius. -/
  temperature : Option UInt8 := none
  /-- Seconds from the start of 1970. -/
  date : Option Int := none
  /-- Satellites in view. -/
  satellites : Option UInt8 := none
  /-- Ground speed, unscaled. -/
  speed : Option Int32 := none

namespace TrackPoint

/-- The point of which nothing is known. -/
def empty : TrackPoint := {}

def isComplete (p : TrackPoint) : Bool := p.latitude.isSome

/-- The position, when both coordinates are set. -/
def position? (p : TrackPoint) : Option Point :=
  match p.latitude, p.longitude with
  | some latitude, some longitude => some ⟨latitude, longitude⟩
  | _, _ => none

/-- The telemetry alone. -/
def withoutPosition (p : TrackPoint) : TrackPoint :=
  { p with latitude := none, longitude := none }

/-- The point at another position. -/
def moveTo (p : TrackPoint) (latitude longitude : Option Float) : TrackPoint :=
  { p with latitude, longitude }

end TrackPoint

end SatelliteTrack
