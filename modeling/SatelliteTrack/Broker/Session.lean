import SatelliteTrack.Broker.Packet
import SatelliteTrack.Json.Wire

/-!
# Waiting for an answer

After a request has gone out the client looks at the events of its connection one by one, until the
first that decides: a publication on exactly the response topic is the answer, a fault of the connection
ends the wait, and so does the deadline. Publications on other topics and all other events are passed
over. The wait is reckoned in readings of the clock; a deadline that the clock cannot show stops the
program.
-/

namespace SatelliteTrack

/-- What happens on a connection to the broker. -/
inductive BrokerEvent where
  | publication (p : Publication)
  | fault (reason : BrokerFault)
  /-- Anything else: packets without content for the client, notices of what was sent. -/
  | notice
deriving DecidableEq, Repr

/-- An event, and the time that passes before it. -/
structure TimedEvent where
  delay : Duration := ⟨0, 0⟩
  event : BrokerEvent
deriving DecidableEq, Repr

/-- The span for which the client waits until its farewell has gone out. -/
def farewellSpan : Duration := .ofSeconds 2

namespace Session

/-- The answer that a payload is. -/
def answerOf (payload : Bytes) : Answer :=
  match Json.ofBytes payload with
  | .ok json => .ok json
  | .error fault => .error (.response (.answer fault))

/-- What an event decides, if anything. -/
def decide? (topics : Topics) : BrokerEvent → Option Answer
  | .publication p => if p.topic = topics.response then some (answerOf p.payload) else none
  | .fault reason => some (.error (.broker reason))
  | .notice => none

/-- The reading of the clock when an event has come. -/
def arrival (now : Instant) (e : TimedEvent) : Instant := ⟨now.nanoseconds + e.delay.toNanoseconds⟩

/-- The outcome of waiting until a deadline, and the reading of the clock at that time. -/
def await (topics : Topics) (timeout : Duration) (deadline : Instant) :
    (now : Instant) → List TimedEvent → Answer × Instant
  | now, [] => (.error (.timeout timeout), if (now.remaining deadline).isZero then now else deadline)
  | now, e :: rest =>
    if (now.remaining deadline).isZero then (.error (.timeout timeout), now)
    else if deadline.nanoseconds < (arrival now e).nanoseconds then (.error (.timeout timeout), deadline)
    else
      match decide? topics e.event with
      | some answer => (answer, arrival now e)
      | none => await topics timeout deadline (arrival now e) rest

/-- A topic that stands for several topics. -/
def hasWildcard (topic : String) : Bool := topic.toList.any fun c => c == '+' || c == '#'

/-- The outcome of a call from a reading of the clock on, with the events of its connection.

Before its request the client asks for the publications on the response topic. This is taken to succeed,
whatever the topic is: the request is only put into the empty queue of a new connection, which does not
look at the topic. The topic of a publication is looked at there. -/
def roundTrip (call : Call) (now : Instant) (events : List TimedEvent) : Answer × Instant :=
  if hasWildcard call.topics.request then (.error (.broker .wildcardTopic), now)
  else
    match now.after? call.timeout with
    | none => (.error .clockOverflow, now)
    | some deadline => await call.topics call.timeout deadline now events

/-- The outcome of a call when the farewell has been said, or the clock has run over. -/
def finish : Answer × Instant → Answer
  | (.error .clockOverflow, _) => .error .clockOverflow
  | (answer, now) =>
    match now.after? farewellSpan with
    | none => .error .clockOverflow
    | some _ => answer

end Session

end SatelliteTrack
