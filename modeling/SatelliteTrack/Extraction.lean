import SatelliteTrack.Message
import SatelliteTrack.Track.Logbook

/-!
# Extraction: from messages to a track

A run visits the messages in order. What a message gives is noted in the logbook; a message that holds
no slot is skipped; a message whose position cannot be had ends the run. While the run goes on, the
last point that was entered is carried to the next message, or the empty point if carrying is switched
off. The state of the position service runs through all visits, so the answers are used up in the order
of the requests.

`Walk` says what a run does message by message, and `Extractor.run` what comes out of it.
-/

namespace SatelliteTrack

/-- How messages are extracted. -/
structure Extractor where
  topics : Topics
  timeout : Duration
  /-- Fields that a slot does not carry are taken over from the point before. -/
  carryForward : Bool := true

/-- A question to the message service. -/
structure Query where
  guid : String
  since : String
deriving DecidableEq, Repr

/-- What the message service gives back. -/
abbrev Fetched := Except TransportError (List Message)

/-- A message service with states of type `τ`. -/
abbrev Feed (τ : Type) := Query → τ → (Fetched × List LogLine) × τ

/-- What one message leads to: a note or the failure that ends the run, the state that the position
service is left in, the calls to it and what is reported. -/
structure Visit (σ : Type) where
  result : Except Failure LogbookNote
  state : σ
  calls : List Call
  log : List LogLine

/-- What a list of messages leads to: the notes, or the failure that ends the run. -/
structure Walk (σ : Type) where
  result : Except Failure (List LogbookNote)
  state : σ
  calls : List Call
  log : List LogLine

/-- The outcome of a run. -/
structure Run (σ : Type) where
  result : Except Failure Track
  state : σ
  calls : List Call
  log : List LogLine

/-- The warning that a point lies outside the range of coordinates. -/
def TrackPoint.report (point : TrackPoint) (index : Nat) : List LogLine :=
  match point.position?.bind Point.fault? with
  | none => []
  | some fault => [.invalidCoordinate index fault]

namespace Extractor

variable {σ τ : Type}

/-- The point that is carried to the next message. -/
def carry (x : Extractor) (previous : TrackPoint) : LogbookNote → TrackPoint
  | .enter _ point => if x.carryForward then point else previous
  | .skip _ _ => previous

/-- One message, on top of the previous point. -/
def visit (x : Extractor) (service : Service σ) (index : Nat) (previous : TrackPoint) (state : σ)
    (m : Message) : Visit σ :=
  match m.decode previous with
  | .error (.unsupported size) =>
    { result := .ok (.skip index size), state, calls := [], log := m.report ++ [.skipping index size] }
  | .error (.residue bytes) =>
    { result := .error (.parse bytes), state, calls := [], log := m.report }
  | .ok (.point point) =>
    { result := .ok (.enter index point), state, calls := [], log := m.report ++ point.report index }
  | .ok (.pending request) =>
    let r := resolve service state request x.topics x.timeout previous
    let log := m.report ++ .askingPosition index :: r.log
    match r.result with
    | .error failure => { result := .error failure, state := r.state, calls := r.calls, log }
    | .ok point =>
      { result := .ok (.enter index point), state := r.state, calls := r.calls
        log := log ++ point.report index }

/-- The messages from a place of the list on, up to the first one that ends the run. -/
def walk (x : Extractor) (service : Service σ) : (index : Nat) → (previous : TrackPoint) → σ →
    List Message → Walk σ
  | _, _, state, [] => { result := .ok [], state, calls := [], log := [] }
  | index, previous, state, m :: ms =>
    let v := x.visit service index previous state m
    match v.result with
    | .error failure => { result := .error failure, state := v.state, calls := v.calls, log := v.log }
    | .ok note =>
      let w := x.walk service (index + 1) (x.carry previous note) v.state ms
      { result := w.result.map (note :: ·), state := w.state
        calls := v.calls ++ w.calls, log := v.log ++ w.log }

/-- What a finished run over a list of messages reports. -/
def closing (messages : List Message) (track : Track) : List LogLine :=
  track.report ++
    [.summary messages.length track.collected track.rows.length track.skipped.length]

/-- The track of fetched messages. A list without messages is a failure of its own. -/
def extract (x : Extractor) (service : Service σ) (state : σ) (messages : List Message) : Run σ :=
  if messages.isEmpty then { result := .error .emptyResult, state, calls := [], log := [] }
  else
    let w := x.walk service 0 .empty state messages
    match w.result with
    | .error failure => { result := .error failure, state := w.state, calls := w.calls, log := w.log }
    | .ok notes =>
      match (Logbook.ofNotes notes).toTrack with
      | .error failure => { result := .error failure, state := w.state, calls := w.calls, log := w.log }
      | .ok track =>
        { result := .ok track, state := w.state, calls := w.calls, log := w.log ++ closing messages track }

/-- One run: the messages are fetched once, and then visited. -/
def run (x : Extractor) (feed : Feed τ) (service : Service σ) (query : Query) (fed : τ) (state : σ) :
    Run σ × τ :=
  match feed query fed with
  | ((.error error, log), fed) =>
    ({ result := .error (.transport error), state, calls := [], log }, fed)
  | ((.ok messages, log), fed) =>
    let r := x.extract service state messages
    ({ r with log := log ++ r.log }, fed)

/-- Runs one after another; the services keep their states from each run to the next. -/
def runAll (x : Extractor) (feed : Feed τ) (service : Service σ) : List Query → τ → σ → List (Run σ)
  | [], _, _ => []
  | query :: rest, fed, state =>
    let (r, fed) := x.run feed service query fed state
    r :: x.runAll feed service rest fed r.state

end Extractor

/-- A message service that gives back a list of results in turn, and no messages after the last. -/
def Feed.ofList : Feed (List (Fetched × List LogLine))
  | _, [] => ((.ok [], []), [])
  | _, fetched :: rest => (fetched, rest)

end SatelliteTrack
