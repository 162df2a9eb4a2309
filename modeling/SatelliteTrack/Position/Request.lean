import SatelliteTrack.Failure

/-!
# Asking for a position

Raw measurements become a position only at the position service. The request is an envelope: a JSON
object with the measurements in base64 and the creation date of the message they came in. An envelope
must fit in one message of the broker.
-/

namespace SatelliteTrack

/-- The largest message that the broker takes, in bytes. -/
def messageLimit : Nat := 8192

/-- Measurements that wait for their position. -/
structure PositionRequest where
  tag : SlotTag
  /-- The measurements in base64. -/
  body : String
  /-- The creation date of the message, as the message service wrote it. -/
  date : String
deriving DecidableEq, Repr

namespace PositionRequest

def ofMeasurements (tag : SlotTag) (measurements : Bytes) (date : String) : PositionRequest :=
  { tag, body := Base64.encode measurements, date }

/-- The request as a JSON object. -/
def toJson (r : PositionRequest) : Json :=
  .object [("body", .string r.body), ("headers", .object [("UTCDateTime", .string r.date)])]

/-- The text that is published; refused when it does not fit in one message. -/
def envelope (r : PositionRequest) : Except Failure String :=
  let text := r.toJson.text
  if messageLimit < text.utf8ByteSize then .error (.payloadTooLarge text.utf8ByteSize messageLimit)
  else .ok text

end PositionRequest

/-- The topics of one device at the broker. -/
structure Topics where
  request : String
  response : String
deriving DecidableEq, Repr

/-- Requests go to a topic that all devices share, the answers to a topic of the device. -/
def Topics.ofDevice (device : String) : Topics where
  request := "CloudLocate/GNSS/request"
  response := "CloudLocate/" ++ device ++ "/GNSS/response"

/-- One question to the position service. -/
structure Call where
  envelope : String
  topics : Topics
  timeout : Duration
deriving DecidableEq, Repr

/-- What the position service gives back. -/
abbrev Answer := Except TransportError Json

/-- A position service with states of type `σ`: it answers a call and may change its state. -/
abbrev Service (σ : Type) := Call → σ → Answer × σ

/-- A service that uses up a list of answers; after the last one no answer comes in time. -/
def Service.ofList : Service (List Answer)
  | call, [] => (.error (.timeout call.timeout), [])
  | _, answer :: rest => (answer, rest)

end SatelliteTrack
