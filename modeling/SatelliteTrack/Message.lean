import SatelliteTrack.Position.Answer

/-!
# Messages

A message carries a payload and a side channel: a position that the satellite network estimated, if
there is one, and the creation date. Decoding lays the slot of the payload over the previous point.
Fields that the slot does not carry keep their value; the position is never one of these, since a
sensor report takes it from the side channel, a fix has its own, and raw measurements wait for it.
-/

namespace SatelliteTrack

/-- A message of the message service. -/
structure Message where
  payload : Bytes
  latitude : Option Float
  longitude : Option Float
  /-- The creation date as the service writes it. -/
  created : String

/-- What one message gives: a point, or measurements that wait for their position. -/
inductive Decoded where
  | point (p : TrackPoint)
  | pending (request : PositionRequest)

/-- The report of a tag that is not the one of its layout. -/
def tagReport (got wanted : SlotTag) : List LogLine :=
  if got = wanted then [] else [.tagMismatch got wanted]

namespace Slot

/-- The slot laid over the previous point. -/
def apply (slot : Slot) (message : Message) (previous : TrackPoint) : Decoded :=
  match slot with
  | .sensor r =>
    .point { previous with
      latitude := message.latitude
      longitude := message.longitude
      temperature := some r.temperature
      battery := some (volts r.battery)
      date := some r.time.toInt }
  | .fix s =>
    .point { previous with
      latitude := some (degrees s.latitude)
      longitude := some (degrees s.longitude)
      temperature := some s.temperature
      battery := some (volts s.battery)
      date := some s.time.toInt
      satellites := some s.satellites
      speed := some s.speed }
  | .raw s => .pending (.ofMeasurements s.tag s.measurements message.created)

/-- What applying the slot reports. -/
def report : Slot → List LogLine
  | .sensor _ => []
  | .fix s => tagReport s.tag .pvt
  | .raw s => tagReport s.tag .raw

end Slot

namespace Message

/-- The message decoded on top of the previous point. -/
def decode (m : Message) (previous : TrackPoint) : Except SlotFault Decoded :=
  (Slot.decode m.payload).map fun slot => slot.apply m previous

/-- What decoding the message reports. -/
def report (m : Message) : List LogLine :=
  .payload m.payload ::
    match Slot.decode m.payload with
    | .ok slot => slot.report
    | .error _ => []

end Message

end SatelliteTrack
