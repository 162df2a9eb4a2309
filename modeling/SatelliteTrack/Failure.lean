import SatelliteTrack.Base64
import SatelliteTrack.Clock
import SatelliteTrack.Json.Printer
import SatelliteTrack.Position.Coordinate
import SatelliteTrack.Slot.Reader

/-!
# What can go wrong

Failures are causes with their details; each type has one `message`, the only place with its wording.
-/

namespace SatelliteTrack

/-- Why a broker turns a client away. -/
inductive Rejection where
  | protocolVersion
  | clientId
  | serviceUnavailable
  | credentials
  | notAuthorized
deriving DecidableEq, Repr

namespace Rejection

/-- The rejection of a return code; zero accepts. -/
def ofCode? : Nat → Option Rejection
  | 1 => some .protocolVersion
  | 2 => some .clientId
  | 3 => some .serviceUnavailable
  | 4 => some .credentials
  | 5 => some .notAuthorized
  | _ => none

def text : Rejection → String
  | .protocolVersion => "RefusedProtocolVersion"
  | .clientId => "BadClientId"
  | .serviceUnavailable => "ServiceUnavailable"
  | .credentials => "BadUserNamePassword"
  | .notAuthorized => "NotAuthorized"

end Rejection

/-- Why an exchange with the broker failed. -/
inductive BrokerFault where
  | networkUnreachable
  | connectionRefused
  /-- The broker closed the connection instead of accepting the client. -/
  | closedAtConnect
  /-- The broker closed the connection later. -/
  | closed
  | rejected (reason : Rejection)
  | incomingTooLarge (size : Nat)
  | outgoingTooLarge (size limit : Nat)
  /-- A request topic with a wildcard cannot be published to. -/
  | wildcardTopic
  | reported (text : String)
deriving DecidableEq, Repr

def BrokerFault.message : BrokerFault → String
  | .networkUnreachable => "I/O: Network is unreachable (os error 101)"
  | .connectionRefused => "I/O: Connection refused (os error 111)"
  | .closedAtConnect => "I/O: connection closed by peer"
  | .closed =>
    "Mqtt state: Io error: Custom \x7b kind: ConnectionAborted, error: \"connection closed by peer\" \x7d"
  | .rejected reason => "Connection refused, return code: `" ++ reason.text ++ "`"
  | .incomingTooLarge size =>
    "Mqtt state: Mqtt serialization/deserialization error: payload size limit exceeded: " ++
      toString size
  | .outgoingTooLarge size limit =>
    "Mqtt state: Cannot send packet of size '" ++ toString size ++
      "'. It's greater than the broker's maximum packet size of: '" ++ toString limit ++ "'"
  | .wildcardTopic => "publish: Failed to send mqtt requests to eventloop"
  | .reported text => text

/-- Why a request to the message service failed before it had a status. -/
inductive FetchFault where
  | invalidUrl
  | invalidToken
  | networkUnreachable
  | connectionRefused
  | bodyCut
  | timedOut
  | reported (text : String)
deriving DecidableEq, Repr

def FetchFault.message : FetchFault → String
  | .invalidUrl => "the address is not valid"
  | .invalidToken => "the token cannot be sent in a header"
  | .networkUnreachable => "the network is unreachable"
  | .connectionRefused => "the connection was refused"
  | .bodyCut => "the connection closed before the end of the body"
  | .timedOut => "the request timed out"
  | .reported text => text

/-- Why a response is not what was expected. -/
inductive ResponseFault where
  /-- The message list is no list of messages. -/
  | messageList (fault : Json.Fault)
  /-- The payload of a message is not base64. -/
  | messageData (data : String) (fault : Base64.Fault)
  /-- The answer of the position service is no object. -/
  | notObject (answer : Json)
  /-- The answer of the position service is no JSON, or holds a coordinate that is no number. -/
  | answer (fault : Json.Fault)
  | reported (text : String)

def ResponseFault.message : ResponseFault → String
  | .messageList fault => "message list: " ++ fault.message
  | .messageData data fault => "message data " ++ Text.quoted data ++ ": " ++ fault.message
  | .notObject json => "expected JSON object, got " ++ json.text
  | .answer fault => "CloudLocate answer: " ++ fault.message
  | .reported text => text

/-- A failure of one of the two services. Each of them ends a run. -/
inductive TransportError where
  | httpStatus (status : Nat)
  | fetch (fault : FetchFault)
  | broker (fault : BrokerFault)
  | timeout (span : Duration)
  | response (fault : ResponseFault)
  /-- The end of the wait is later than the clock can show: the program stops at once. -/
  | clockOverflow

def TransportError.message : TransportError → String
  | .httpStatus status => "HTTP status " ++ toString status
  | .fetch fault => "HTTP request failed: " ++ fault.message
  | .broker fault => "MQTT: " ++ fault.message
  | .timeout span => "no response within " ++ span.text
  | .response fault => "unexpected response: " ++ fault.message
  | .clockOverflow => "the end of the wait is beyond the clock"

/-- Why a file or a sink did not take its text. -/
inductive IoFault where
  | noSuchFile
  | permissionDenied
  | notDirectory
  | isDirectory
  | fileTooLarge
  | noSpace
  | nameTooLong
  | nulByte
  | sinkFull
deriving DecidableEq, Repr

def IoFault.message : IoFault → String
  | .noSuchFile => "No such file or directory (os error 2)"
  | .permissionDenied => "Permission denied (os error 13)"
  | .notDirectory => "Not a directory (os error 20)"
  | .isDirectory => "Is a directory (os error 21)"
  | .fileTooLarge => "File too large (os error 27)"
  | .noSpace => "No space left on device (os error 28)"
  | .nameTooLong => "File name too long (os error 36)"
  | .nulByte => "file name contained an unexpected NUL byte"
  | .sinkFull => "sink full"

/-- Bytes in decimal, as a list. -/
def bytesText (bytes : Bytes) : String :=
  "[" ++ ", ".intercalate (bytes.map fun b => toString b.toNat) ++ "]"

/-- A failure of the program. -/
inductive Failure where
  | transport (error : TransportError)
  /-- The service has no messages, or nothing was collected. -/
  | emptyResult
  | unsupportedPayload (size : Nat)
  | payloadTooLarge (size limit : Nat)
  | parse (residue : Residue)
  | invalidCoordinate (fault : CoordinateFault)
  | io (fault : IoFault)

def Failure.message : Failure → String
  | .transport error => "Transport error: " ++ error.message
  | .emptyResult => "No messages returned for this device and start date"
  | .unsupportedPayload size => "Unsupported payload length: " ++ toString size ++ " bytes"
  | .payloadTooLarge size limit =>
    "Request envelope is " ++ toString size ++ " bytes, broker limit is " ++ toString limit ++ " bytes"
  | .parse residue =>
    "Parse error: Error \x7b input: " ++ bytesText residue.bytes ++ ", code: Eof \x7d"
  | .invalidCoordinate fault => "Invalid coordinate: " ++ fault.message
  | .io fault => "I/O error: " ++ fault.message

/-- A payload that holds no slot, as a failure. -/
def SlotFault.toFailure : SlotFault → Failure
  | .unsupported size => .unsupportedPayload size
  | .residue bytes => .parse bytes

end SatelliteTrack
