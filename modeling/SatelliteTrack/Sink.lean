import SatelliteTrack.Failure

/-!
# Sinks

A sink takes bytes in order as long as it has room. Text comes in pieces; a piece that does not fit is
taken as far as there is room, and nothing follows it. So what a sink has taken is always a beginning
of what it was given.
-/

namespace SatelliteTrack

/-- A place that takes bytes. -/
structure Sink where
  /-- How many bytes it takes; unset for a sink without a limit. -/
  room : Option Nat := none
  /-- Why it takes no more. -/
  full : IoFault := .sinkFull
deriving DecidableEq, Repr

/-- What a sink has taken, and the fault if that is not all. -/
structure Taken where
  bytes : Bytes := []
  fault : Option IoFault := none
deriving DecidableEq, Repr

namespace Sink

/-- A sink with room for so many bytes. -/
def ofRoom (n : Nat) : Sink := { room := some n }

/-- The sink when so many bytes fewer fit into it. -/
def shrink (sink : Sink) (n : Nat) : Sink := { sink with room := sink.room.map (· - n) }

/-- The sink with a second limit, which counts if it is the nearer one. -/
def narrow (sink : Sink) (limit : Nat) (full : IoFault) : Sink :=
  if sink.room.all (limit < ·) then { room := some limit, full } else sink

/-- A piece fits into the sink. -/
def fits (sink : Sink) (piece : Bytes) : Bool := sink.room.all fun room => piece.length ≤ room

/-- What the sink takes of pieces of text: all up to the first that does not fit, and of that one as
much as fits. -/
def write (sink : Sink) : List String → Taken
  | [] => {}
  | text :: rest =>
    let piece := Text.utf8 text
    if sink.fits piece then
      let more := (sink.shrink piece.length).write rest
      { more with bytes := piece ++ more.bytes }
    else { bytes := piece.take (sink.room.getD 0), fault := some sink.full }

end Sink

end SatelliteTrack
