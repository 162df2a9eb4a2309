import SatelliteTrack.Extraction
import SatelliteTrack.Proofs.SlotSizes

/-!
# Calls and answers

A position service is a machine: a call moves its state and gives an answer. `Service.after` and
`Service.answers` are its run over calls in turn, and the `k`-th answer is the one given in the state
that the first `k` calls left (`Service.getElem?_answers`).

A message with raw measurements asks for its position, once, unless its envelope is refused. What the
request is (`Extractor.call`, `Extractor.callsOf`) and what becomes of the answer
(`Message.failure?`, `Answer.position?`) is said here from the payload, the creation date and the answer
alone, without the point that came before. `resolve_request` is the one law of `resolve` that the rest
uses.
-/

namespace SatelliteTrack

variable {σ : Type}

/-! ## A service that is called several times -/

namespace Service

/-- The state that a service is left in by calls in turn. -/
def after (service : Service σ) (state : σ) (calls : List Call) : σ :=
  calls.foldl (fun state call => (service call state).2) state

/-- The answers that a service gives to calls in turn. -/
def answers (service : Service σ) : σ → List Call → List Answer
  | _, [] => []
  | state, call :: rest => (service call state).1 :: answers service (service call state).2 rest

theorem after_nil (service : Service σ) (state : σ) : service.after state [] = state := rfl

theorem after_append (service : Service σ) (state : σ) (first second : List Call) :
    service.after state (first ++ second) = service.after (service.after state first) second :=
  List.foldl_append

theorem answers_append (service : Service σ) (state : σ) (first second : List Call) :
    service.answers state (first ++ second) =
      service.answers state first ++ service.answers (service.after state first) second := by
  induction first generalizing state with
  | nil => rfl
  | cons call rest ih =>
    simp only [List.cons_append, answers, ih, List.cons.injEq, true_and]
    rfl

theorem length_answers (service : Service σ) (state : σ) (calls : List Call) :
    (service.answers state calls).length = calls.length := by
  induction calls generalizing state with
  | nil => rfl
  | cons call rest ih => simp only [answers, List.length_cons, ih]

/-- The `k`-th answer is given in the state that the calls before it left. -/
theorem getElem?_answers (service : Service σ) (state : σ) (calls : List Call) (k : Nat) :
    (service.answers state calls)[k]? =
      calls[k]?.map fun call => (service call (service.after state (calls.take k))).1 := by
  induction calls generalizing state k with
  | nil => rfl
  | cons call rest ih =>
    cases k with
    | zero => rfl
    | succ k =>
      simp only [answers, List.getElem?_cons_succ, ih, List.take_succ_cons]
      rfl

end Service

/-! ## The answer -/

namespace Json

/-- What a value is that stands for a coordinate and is neither null nor a number. -/
def misfit? : Json → Option Found
  | .null => none
  | .number _ => none
  | .bool b => some (.bool b)
  | .string s => some (.string s)
  | .array _ => some .sequence
  | .object _ => some .map

/-- What stands under a key in place of a coordinate. -/
def misfitAt? (key : String) (json : Json) : Option Found := (json.member? key).bind misfit?

/-- The number under a key. -/
def numberAt? (key : String) (json : Json) : Option Float :=
  match json.member? key with
  | some (.number n) => some n.toFloat
  | _ => none

end Json

theorem coordinateOf_eq (key : String) (json : Json) :
    coordinateOf key json = match json.misfitAt? key with
      | some found => .error (.invalidType found .number)
      | none => .ok (json.numberAt? key) := by
  unfold coordinateOf Json.misfitAt? Json.numberAt?
  cases json.member? key with
  | none => rfl
  | some value => cases value <;> rfl

namespace Answer

/-- Why an answer ends the run: the service failed, or gave something that is no object, or an object in
which a coordinate is neither null nor a number. The latitude is looked at first. -/
def refusal? : Answer → Option TransportError
  | .error error => some error
  | .ok (.object members) =>
    ((Json.object members).misfitAt? "Lat").or ((Json.object members).misfitAt? "Lon")
      |>.map fun found => .response (.answer (.invalidType found .number))
  | .ok json => some (.response (.notObject json))

/-- The position in an answer: both coordinates, or none. -/
def position? : Answer → Option Point
  | .error _ => none
  | .ok json =>
    match json.numberAt? "Lat", json.numberAt? "Lon" with
    | some latitude, some longitude => some ⟨latitude, longitude⟩
    | _, _ => none

end Answer

/-- The point at the position of an answer, without a position if the answer has none. -/
def TrackPoint.moveToAnswer (p : TrackPoint) (answer : Answer) : TrackPoint :=
  p.moveTo (answer.position?.map Point.latitude) (answer.position?.map Point.longitude)

theorem TrackPoint.locateAnswer_fst (p : TrackPoint) (answer : Answer) :
    (p.locateAnswer answer).1 = match answer.refusal? with
      | some error => .error error
      | none => .ok (p.moveToAnswer answer) := by
  cases answer with
  | error error => rfl
  | ok json =>
    cases json with
    | object members =>
      simp only [locateAnswer, locate, coordinateOf_eq, Answer.refusal?, moveToAnswer, Answer.position?]
      cases (Json.object members).misfitAt? "Lat" with
      | some found => rfl
      | none =>
        cases (Json.object members).misfitAt? "Lon" with
        | some found => rfl
        | none =>
          cases (Json.object members).numberAt? "Lat" <;>
            cases (Json.object members).numberAt? "Lon" <;> rfl
    | _ => rfl

/-! ## The request -/

namespace Message

/-- The envelope of a message with raw measurements: the bytes after the tag, and the creation date. The
tag is not in it. -/
def envelopeText (m : Message) : String :=
  (PositionRequest.ofMeasurements .raw (m.payload.drop 1) m.created).toJson.text

/-- The envelope fits in one message of the broker. -/
def fits (m : Message) : Bool := m.envelopeText.utf8ByteSize ≤ messageLimit

/-- Why the round-trip of a message with raw measurements fails, given the answer to it. -/
def failure? (m : Message) (answer : Answer) : Option Failure :=
  if m.fits then answer.refusal?.map .transport
  else some (.payloadTooLarge m.envelopeText.utf8ByteSize messageLimit)

theorem failure?_eq_none_iff (m : Message) (answer : Answer) :
    m.failure? answer = none ↔ m.fits = true ∧ answer.refusal? = none := by
  cases fits : m.fits <;> simp [failure?, fits]

/-- The two ways in which a round-trip fails: the envelope is refused, or the answer is. -/
theorem failure?_eq_some_iff (m : Message) (answer : Answer) (failure : Failure) :
    m.failure? answer = some failure ↔
      m.fits = false ∧ failure = .payloadTooLarge m.envelopeText.utf8ByteSize messageLimit ∨
      m.fits = true ∧ ∃ error, answer.refusal? = some error ∧ failure = .transport error := by
  cases fits : m.fits with
  | false => simp [failure?, fits, eq_comm]
  | true => simp [failure?, fits, eq_comm (a := Failure.transport _)]

theorem envelope_request (m : Message) (tag : SlotTag) :
    (PositionRequest.ofMeasurements tag (m.payload.drop 1) m.created).envelope =
      if m.fits then .ok m.envelopeText
      else .error (.payloadTooLarge m.envelopeText.utf8ByteSize messageLimit) := by
  have text : (PositionRequest.ofMeasurements tag (m.payload.drop 1) m.created).toJson.text =
      m.envelopeText := congrArg Json.text rfl
  unfold PositionRequest.envelope
  simp only [text, fits, decide_eq_true_eq]
  by_cases h : m.envelopeText.utf8ByteSize ≤ messageLimit
  · rw [if_neg (Nat.not_lt.mpr h), if_pos h]
  · rw [if_pos (Nat.lt_of_not_le h), if_neg h]

end Message

namespace Extractor

/-- The call for the position of a message. -/
def call (x : Extractor) (m : Message) : Call :=
  { envelope := m.envelopeText, topics := x.topics, timeout := x.timeout }

/-- The calls that a message leads to: one if it holds raw measurements and its envelope fits. -/
def callsOf (x : Extractor) (m : Message) : List Call :=
  if m.isRaw && m.fits then [x.call m] else []

/-- The answer to the request of a message: what the service says in the state that the calls for the
messages before it left. -/
def answer (x : Extractor) (service : Service σ) (state : σ) (before : List Message) (m : Message) :
    Answer :=
  (service (x.call m) (service.after state (before.flatMap x.callsOf))).1

theorem answer_cons (x : Extractor) (service : Service σ) (state : σ) (first : Message)
    (before : List Message) (m : Message) :
    x.answer service state (first :: before) m =
      x.answer service (service.after state (x.callsOf first)) before m := by
  simp only [answer, List.flatMap_cons, Service.after_append]

end Extractor

/-- **One request**: it fails or moves the previous point as its own answer says; it calls the service
once if the envelope fits and leaves it alone otherwise. -/
theorem resolve_request (x : Extractor) (service : Service σ) (state : σ) (tag : SlotTag) (m : Message)
    (previous : TrackPoint) :
    let r := resolve service state (.ofMeasurements tag (m.payload.drop 1) m.created) x.topics x.timeout
      previous
    let answer := (service (x.call m) state).1
    (r.result = match m.failure? answer with
      | some failure => .error failure
      | none => .ok (previous.moveToAnswer answer)) ∧
    r.state = service.after state (if m.fits then [x.call m] else []) ∧
    r.calls = if m.fits then [x.call m] else [] := by
  simp only [resolve, m.envelope_request]
  cases fits : m.fits with
  | false =>
    simp only [Message.failure?, fits, Bool.false_eq_true, ↓reduceIte, Service.after_nil, and_self]
  | true =>
    simp only [↓reduceIte, Message.failure?, fits]
    refine ⟨?_, rfl, rfl⟩
    show ((previous.locateAnswer (service (x.call m) state).1).1).mapError Failure.transport = _
    rw [TrackPoint.locateAnswer_fst]
    cases Answer.refusal? (service (x.call m) state).1 <;> rfl

end SatelliteTrack
