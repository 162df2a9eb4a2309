/-!
# The network

Both services are reached over the network of the host. Where there is none, every exchange fails
before a byte is sent.
-/

namespace SatelliteTrack

/-- Whether the host can reach its peers. -/
inductive Network where
  | reachable
  | unreachable
deriving DecidableEq, Repr

end SatelliteTrack
