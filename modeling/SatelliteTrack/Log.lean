import SatelliteTrack.Decimal.Fixed
import SatelliteTrack.Failure

/-!
# The log

What the program reports while it works. A line is an event with its details; `level` and `message` say
how it is shown. The reports of the broker's client about its connection are not among the events: that it
connects, has queued a request, has received or ignored a publication, has disconnected.
-/

namespace SatelliteTrack

/-- The weight of a line. -/
inductive Level where
  | debug
  | info
  | warn
  | error
deriving DecidableEq, Repr

def Level.text : Level → String
  | .debug => "DEBUG"
  | .info => "INFO"
  | .warn => "WARN"
  | .error => "ERROR"

/-- An event that is reported. -/
inductive LogLine where
  | fetching (guid since : String)
  | received (count : Nat)
  | messageCreated (date : String) (size : Nat)
  | payload (bytes : Bytes)
  /-- The tag of a slot is not the one of its layout. -/
  | tagMismatch (got wanted : SlotTag)
  | skipping (index size : Nat)
  | askingPosition (index : Nat)
  | envelope (text : String)
  | position (latitude longitude : Float)
  | noPosition
  | invalidCoordinate (index : Nat) (fault : CoordinateFault)
  | complete (rows collected : Nat)
  | summary (messages collected rows omitted : Nat)
  | skipped (index size : Nat)
  | wrote (rows : Nat) (csvPath htmlPath : String)
  | failed (failure : Failure)

namespace LogLine

def level : LogLine → Level
  | .messageCreated .. | .payload _ | .envelope _ | .complete .. => .debug
  | .tagMismatch .. | .skipping .. | .noPosition | .invalidCoordinate .. => .warn
  | .failed _ => .error
  | _ => .info

def message : LogLine → String
  | .fetching guid since => "fetching messages for " ++ guid ++ " since " ++ since
  | .received count => "received " ++ toString count ++ " messages"
  | .messageCreated date size => "message created " ++ date ++ ": " ++ toString size ++ " bytes"
  | .payload bytes => "payload (" ++ toString bytes.length ++ " bytes): " ++ Text.hex bytes
  | .tagMismatch got wanted =>
    "slot tag " ++ got.text ++ " on a " ++ wanted.text ++ " sized payload"
  | .skipping index size =>
    "skipping message " ++ toString index ++ " with unsupported " ++ toString size ++ " byte payload"
  | .askingPosition index =>
    "message " ++ toString index ++ " holds raw measurements, asking CloudLocate"
  | .envelope text => "CloudLocate envelope: " ++ text
  | .position x y =>
    "CloudLocate position: " ++ Decimal.fixedText 7 x ++ ", " ++ Decimal.fixedText 7 y
  | .noPosition => "CloudLocate answer carries no position"
  | .invalidCoordinate index fault =>
    "message " ++ toString index ++ ": " ++ (Failure.invalidCoordinate fault).message
  | .complete rows collected =>
    toString rows ++ " of " ++ toString collected ++ " records complete"
  | .summary messages collected rows omitted =>
    toString messages ++ " messages, " ++ toString collected ++ " records, " ++
      toString rows ++ " complete, " ++ toString omitted ++ " skipped"
  | .skipped index size =>
    "message " ++ toString index ++ " skipped (" ++ toString size ++ " byte payload)"
  | .wrote rows csvPath htmlPath =>
    "wrote " ++ toString rows ++ " rows to " ++ csvPath ++ " and " ++ htmlPath
  | .failed failure => failure.message

end LogLine

end SatelliteTrack
