import SatelliteTrack.Log
import SatelliteTrack.Position.Request
import SatelliteTrack.Track.Point

/-!
# Resolving a position

`resolve` asks the position service once, unless the envelope is refused, and moves the previous point
to the position of the answer. The answer has to be an object; of its members only `Lat` and `Lon`
count. A position is taken whole: when one coordinate is missing or null the point has none.
-/

namespace SatelliteTrack

/-- One coordinate of an answer: a number, or unset when it is missing or null. -/
def coordinateOf (key : String) (answer : Json) : Except Json.Fault (Option Float) :=
  match answer.member? key with
  | none => .ok none
  | some .null => .ok none
  | some (.number n) => .ok (some n.toFloat)
  | some (.bool b) => .error (.invalidType (.bool b) .number)
  | some (.string s) => .error (.invalidType (.string s) .number)
  | some (.array _) => .error (.invalidType .sequence .number)
  | some (.object _) => .error (.invalidType .map .number)

/-- The previous point at the position of an answer, and what is reported. -/
def TrackPoint.locate (previous : TrackPoint) (answer : Json) :
    Except TransportError TrackPoint × List LogLine :=
  match answer with
  | .object _ =>
    match coordinateOf "Lat" answer with
    | .error fault => (.error (.response (.answer fault)), [])
    | .ok latitude =>
      match coordinateOf "Lon" answer with
      | .error fault => (.error (.response (.answer fault)), [])
      | .ok longitude =>
        match latitude, longitude with
        | some x, some y => (.ok (previous.moveTo (some x) (some y)), [.position x y])
        | _, _ => (.ok previous.withoutPosition, [.noPosition])
  | _ => (.error (.response (.notObject answer)), [])

/-- The outcome of a request: the point or a failure, the state the service is left in, the calls that
were made and what was reported. -/
structure Resolution (σ : Type) where
  result : Except Failure TrackPoint
  state : σ
  calls : List Call
  log : List LogLine

/-- The previous point at the position of what the service gave back, and what is reported. -/
def TrackPoint.locateAnswer (previous : TrackPoint) :
    Answer → Except TransportError TrackPoint × List LogLine
  | .error error => (.error error, [])
  | .ok json => previous.locate json

/-- The point of a request, on top of the previous point. -/
def resolve {σ : Type} (service : Service σ) (state : σ) (request : PositionRequest) (topics : Topics)
    (timeout : Duration) (previous : TrackPoint) : Resolution σ :=
  match request.envelope with
  | .error failure => { result := .error failure, state, calls := [], log := [] }
  | .ok envelope =>
    let call : Call := { envelope, topics, timeout }
    let (answer, state) := service call state
    let (result, log) := previous.locateAnswer answer
    { result := result.mapError .transport, state, calls := [call], log := .envelope envelope :: log }

end SatelliteTrack
