import SatelliteTrack.Position.Request
import SatelliteTrack.Text.Hex

/-!
# Publications

A publication is a topic and a payload. On the wire it is a packet: a header byte, the length of what
follows in base 128 with the lowest digit first, the length of the topic in two bytes, the topic, and
the payload. The packets that are sent and those that are taken each have a limit; the limit for sending
leaves room for a message of the largest size on the request topic.
-/

namespace SatelliteTrack

/-- A message on a topic. -/
structure Publication where
  topic : String
  payload : Bytes
deriving DecidableEq, Repr

/-- A length in base 128, the lowest digit first; every digit but the last has its high bit set. -/
def lengthBytes (n : Nat) : Bytes :=
  if n < 128 then [UInt8.ofNat n] else UInt8.ofNat (n % 128 + 128) :: lengthBytes (n / 128)
termination_by n
decreasing_by omega

/-- A number in two bytes, the high one first. -/
def twoBytes (n : Nat) : Bytes := [UInt8.ofNat (n / 256), UInt8.ofNat n]

namespace Publication

/-- The header byte of a publication that is delivered at most once and not retained. -/
def header : UInt8 := 0x30

/-- The length of what follows the length. -/
def remaining (p : Publication) : Nat := 2 + (Text.utf8 p.topic).length + p.payload.length

/-- The packet. -/
def encode (p : Publication) : Bytes :=
  header :: lengthBytes p.remaining ++ twoBytes (Text.utf8 p.topic).length ++ Text.utf8 p.topic ++ p.payload

/-- The size of the packet. -/
def size (p : Publication) : Nat := 1 + (lengthBytes p.remaining).length + p.remaining

theorem length_encode (p : Publication) : p.encode.length = p.size := by
  simp only [encode, size, remaining, twoBytes, List.length_append, List.length_cons, List.length_nil]
  omega

end Publication

/-- The largest packet that is sent: a largest message on the request topic, with its topic length and
up to five bytes of header and length. -/
def outgoingLimit (topics : Topics) : Nat := messageLimit + (Text.utf8 topics.request).length + 7

/-- The greatest remaining length of a packet that is taken. -/
def incomingLimit : Nat := 10 * 1024

end SatelliteTrack
