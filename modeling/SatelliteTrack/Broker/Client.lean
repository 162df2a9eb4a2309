import SatelliteTrack.Broker.Session
import SatelliteTrack.Network

/-!
# The client of the broker

Each call makes a connection of its own: the client connects, subscribes to the response topic, publishes
the envelope on the request topic, waits for the answer and says farewell. `BrokerScript` is the other
side of one connection, `BrokerPeer` the broker with the scripts that it has left, and `Dialogue` what it
sees of the client.
-/

namespace SatelliteTrack

/-- How the broker greets a client. -/
inductive Greeting where
  | accept
  | reject (reason : Rejection)
  | close
deriving DecidableEq, Repr

/-- What the broker does on one connection. -/
structure BrokerScript where
  greeting : Greeting := .accept
  /-- What is sent when the client has published. -/
  replies : List Publication := []
  /-- The connection is closed after the replies. -/
  closes : Bool := false
  /-- What comes after that, each thing after a delay of its own. -/
  traffic : List TimedEvent := []

/-- The words with which a client introduces itself. -/
structure Introduction where
  clientId : String
  keepAlive : Nat
  flags : Nat
  username : Option String
  password : Option String
deriving DecidableEq, Repr

/-- What the broker sees on one connection; parts that never came are missing. -/
structure Dialogue where
  introduction : Introduction
  subscription : Option String := none
  publication : Option Publication := none
  farewell : Bool := false
deriving DecidableEq, Repr

/-- The broker at the other end of the network. -/
structure BrokerPeer where
  network : Network := .reachable
  /-- The reading of the clock at which the next call begins. -/
  clock : Instant := ⟨0⟩
  /-- The scripts that are left, one for each connection; without one the connection is refused. -/
  scripts : List BrokerScript := []
  seen : List Dialogue := []

/-- An account at the broker. -/
structure BrokerClient where
  deviceId : String
  username : String
  password : String

namespace BrokerClient

/-- The topics of the device. -/
def topics (client : BrokerClient) : Topics := .ofDevice client.deviceId

/-- A text, unless it is empty. -/
def nonempty? (text : String) : Option String := if text.isEmpty then none else some text

/-- How the account introduces itself: a clean session, and name and password when they are not empty. -/
def introduction (client : BrokerClient) : Introduction where
  clientId := client.deviceId
  keepAlive := 30
  flags := 2 + (if client.username.isEmpty then 0 else 128) + (if client.password.isEmpty then 0 else 64)
  username := nonempty? client.username
  password := nonempty? client.password

/-- The publication of a call. -/
def publication (call : Call) : Publication :=
  { topic := call.topics.request, payload := Text.utf8 call.envelope }

/-- An event that a reply of the broker is. -/
def replyEvent (p : Publication) : BrokerEvent :=
  if incomingLimit < p.remaining then .fault (.incomingTooLarge p.remaining) else .publication p

/-- What the client takes of an event that the broker brings about. -/
def received (e : TimedEvent) : TimedEvent :=
  match e.event with
  | .publication p => { e with event := replyEvent p }
  | _ => e

/-- The events of a connection to a broker that follows a script. -/
def events (call : Call) (script : BrokerScript) : List TimedEvent :=
  match script.greeting with
  | .reject reason => [{ event := .fault (.rejected reason) }]
  | .close => [{ event := .fault .closedAtConnect }]
  | .accept =>
    if Session.hasWildcard call.topics.request then [{ event := .notice }]
    else if outgoingLimit call.topics < (publication call).size then
      [{ event := .notice },
        { event := .fault (.outgoingTooLarge (publication call).size (outgoingLimit call.topics)) }]
    else
      { event := .notice } :: script.replies.map (fun p => { event := replyEvent p }) ++
        (if script.closes then [{ event := .fault .closed }] else []) ++ script.traffic.map received

/-- The events that come before the wait is over: up to the answer or the deadline. -/
def untilAnswer (topics : Topics) (deadline : Instant) : (now : Instant) → List TimedEvent →
    List BrokerEvent
  | _, [] => []
  | now, e :: rest =>
    if deadline.nanoseconds < (Session.arrival now e).nanoseconds then []
    else if (Session.decide? topics e.event).isSome then [e.event]
    else e.event :: untilAnswer topics deadline (Session.arrival now e) rest

/-- The event is a fault of the connection. -/
def isFault : BrokerEvent → Bool
  | .fault _ => true
  | _ => false

/-- What the broker sees of a call that begins at a reading of the clock. -/
def dialogue (client : BrokerClient) (call : Call) (now : Instant) (script : BrokerScript) : Dialogue :=
  match script.greeting with
  | .accept =>
    { introduction := client.introduction
      subscription := some call.topics.response
      publication :=
        if Session.hasWildcard call.topics.request ∨ outgoingLimit call.topics < (publication call).size
        then none else some (publication call)
      farewell :=
        let deadline := (now.after? call.timeout).getD now
        !(untilAnswer call.topics deadline now (events call script)).any isFault &&
          ((Session.roundTrip call now (events call script)).2.after? farewellSpan).isSome }
  | _ => { introduction := client.introduction }

/-- The clock cannot show the end of the wait for the answer. -/
def isStopped (call : Call) (now : Instant) : Bool :=
  !Session.hasWildcard call.topics.request && (now.after? call.timeout).isNone

/-- The events of the connection of a call, and the broker after it. The connection is made when the
client first looks for an event; a call that is stopped before does not come to the broker. -/
def connect (client : BrokerClient) (call : Call) (peer : BrokerPeer) : List TimedEvent × BrokerPeer :=
  match peer.network, peer.scripts with
  | .unreachable, _ => ([{ event := .fault .networkUnreachable }], peer)
  | .reachable, [] => ([{ event := .fault .connectionRefused }], peer)
  | .reachable, script :: rest =>
    (events call script,
      if isStopped call peer.clock then peer
      else { peer with scripts := rest, seen := peer.seen ++ [client.dialogue call peer.clock script] })

/-- The account as a position service. -/
def service (client : BrokerClient) : Service BrokerPeer := fun call peer =>
  let (events, peer) := client.connect call peer
  let outcome := Session.roundTrip call peer.clock events
  (Session.finish outcome, { peer with clock := outcome.2 })

end BrokerClient

end SatelliteTrack
