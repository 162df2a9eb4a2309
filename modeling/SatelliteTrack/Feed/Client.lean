import SatelliteTrack.Extraction
import SatelliteTrack.Feed.MessageList
import SatelliteTrack.Feed.Url
import SatelliteTrack.Network

/-!
# The client of the message service

A fetch is one request: the base address without its trailing slashes, the path of the messages, and a
query of the start date and the device. The token goes into a header; one that cannot stand in a header
is refused before anything is sent. Only the status 200 is taken. The body must arrive whole; it is read
as text, without a byte order mark at its start.

`FeedServer` is the other side: the replies that it has left, one for each connection, and the requests
that it has seen.
-/

namespace SatelliteTrack

/-- A reply of the message service. -/
structure FeedReply where
  status : Nat := 200
  body : String := ""
  /-- How many bytes are promised beyond the body and never sent. -/
  cut : Nat := 0
  /-- Why the exchange ends before a status has come, if it does. -/
  fails : Option FetchFault := none

/-- A request as the message service sees it. -/
structure FeedRequest where
  target : String
  apiKey : String
deriving DecidableEq, Repr

/-- The message service at the other end of the network. -/
structure FeedServer where
  network : Network := .reachable
  /-- The replies that are left, one for each connection; without one the connection is refused. -/
  replies : List FeedReply := []
  seen : List FeedRequest := []

/-- An account at the message service. -/
structure FeedClient where
  /-- The base address, without trailing slashes. -/
  base : String
  token : String

namespace FeedClient

/-- A text without its trailing slashes. -/
def trimSlashes (text : String) : String :=
  String.ofList (text.toList.reverse.dropWhile (· == '/')).reverse

/-- The account with a base address and a token. -/
def ofAddress (address token : String) : FeedClient := { base := trimSlashes address, token }

/-- The address of the messages. -/
def messagesUrl (client : FeedClient) : String := client.base ++ "/v1/messages"

/-- The character cannot stand in a header. -/
def isRefused (c : Char) : Bool := (c.toNat < 0x20 && c ≠ '\t') || c.toNat == 0x7f

/-- The pairs of the query. -/
def pairs (query : Query) : List (String × String) :=
  [("startReceivedDate", query.since), ("deviceGuid", query.guid)]

/-- The request for a query. -/
def request (client : FeedClient) (query : Query) : Except FetchFault FeedRequest :=
  match Url.ofText? client.messagesUrl with
  | none => .error .invalidUrl
  | some url =>
    if client.token.toList.any isRefused then .error .invalidToken
    else .ok { target := String.ofList (url.target (pairs query)), apiKey := client.token }

/-- A text without a byte order mark at its start. -/
def dropMark (text : String) : String :=
  match text.toList with
  | c :: rest => if c = '\ufeff' then String.ofList rest else text
  | [] => text

/-- The body of a reply. -/
def body (reply : FeedReply) : Except TransportError String :=
  match reply.fails with
  | some fault => .error (.fetch fault)
  | none =>
    if reply.status ≠ 200 then .error (.httpStatus reply.status)
    else if 0 < reply.cut then .error (.fetch .bodyCut)
    else .ok (dropMark reply.body)

/-- One request to the server and its reply. -/
def exchange (client : FeedClient) (query : Query) (server : FeedServer) :
    Except TransportError String × FeedServer :=
  match client.request query with
  | .error fault => (.error (.fetch fault), server)
  | .ok request =>
    match server.network, server.replies with
    | .unreachable, _ => (.error (.fetch .networkUnreachable), server)
    | .reachable, [] => (.error (.fetch .connectionRefused), server)
    | .reachable, reply :: rest =>
      (body reply, { server with replies := rest, seen := server.seen ++ [request] })

/-- The messages that a body lists. -/
def messages (body : Except TransportError String) : Fetched :=
  match body with
  | .error error => .error error
  | .ok text => (MessageList.ofText text).mapError .response

/-- What fetching reports. -/
def report (query : Query) (body : Except TransportError String) : List LogLine :=
  .fetching query.guid query.since ::
    match body with
    | .error _ => []
    | .ok text =>
      MessageList.report text ++
        match MessageList.ofText text with
        | .error _ => []
        | .ok messages => [.received messages.length]

/-- The account as a message service. -/
def feed (client : FeedClient) : Feed FeedServer := fun query server =>
  let (body, server) := client.exchange query server
  ((messages body, report query body), server)

end FeedClient

end SatelliteTrack
