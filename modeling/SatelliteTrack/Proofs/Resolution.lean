import SatelliteTrack.Proofs.Exchange

/-!
# What becomes of a request

A request is decided by its envelope, and then by the answer: the service is asked once if the envelope
fits and never otherwise, and what it answers either ends the request or moves the previous point.

**The theorem** (`resolve_outcome`) names the outcome for every answer there is. What comes back is the
previous point with another position and with nothing else changed, and the position is taken whole from
the answer or not at all: the previous one is never looked at, and of the answer only the two coordinates
are.

Which answers there are is told by the two members that count, each of which is missing, null, a number or
a misfit. The four combinations of the first three are the positions (`locate_object`); a misfit is refused
wherever it stands (`locate_misfit`).
-/

namespace SatelliteTrack

/-! ## The envelope -/

namespace PositionRequest

/-- The envelope fits in one message of the broker. -/
def Fits (r : PositionRequest) : Prop := r.toJson.text.utf8ByteSize ≤ messageLimit

/-- The call that the request makes. -/
def call (r : PositionRequest) (topics : Topics) (timeout : Duration) : Call :=
  { envelope := r.toJson.text, topics, timeout }

theorem envelope_of_fits {r : PositionRequest} (h : r.Fits) : r.envelope = .ok r.toJson.text :=
  if_neg (Nat.not_lt.mpr h)

theorem envelope_of_not_fits {r : PositionRequest} (h : ¬ r.Fits) :
    r.envelope = .error (.payloadTooLarge r.toJson.text.utf8ByteSize messageLimit) :=
  if_pos (Nat.not_le.mp h)

end PositionRequest

/-! ## The answer -/

namespace Json

/-- The member under the key is there and is neither null nor a number. -/
def Misfit (json : Json) (key : String) : Prop :=
  ∃ value, json.member? key = some value ∧ value ≠ .null ∧ ∀ n, value ≠ .number n

/-- One of the two coordinates is neither null nor a number. -/
def HasMisfit (json : Json) : Prop := json.Misfit "Lat" ∨ json.Misfit "Lon"

/-- Both coordinates are numbers, and these are they. -/
def Locates (json : Json) (latitude longitude : Number) : Prop :=
  json.member? "Lat" = some (.number latitude) ∧ json.member? "Lon" = some (.number longitude)

end Json

/-- A coordinate is refused exactly if it is a misfit. -/
theorem coordinateOf_misfit {json : Json} {key : String} (h : json.Misfit key) :
    ∃ fault, coordinateOf key json = .error fault := by
  obtain ⟨value, present, noNull, noNumber⟩ := h
  unfold coordinateOf
  rw [present]
  cases value with
  | null => exact absurd rfl noNull
  | number n => exact absurd rfl (noNumber n)
  | bool b => exact ⟨_, rfl⟩
  | string s => exact ⟨_, rfl⟩
  | array items => exact ⟨_, rfl⟩
  | object members => exact ⟨_, rfl⟩

/-- A coordinate that is no misfit is set exactly if it is a number. -/
theorem coordinateOf_fit {json : Json} {key : String} (h : ¬ json.Misfit key) :
    (∃ n, json.member? key = some (.number n) ∧ coordinateOf key json = .ok (some n.toFloat)) ∨
      (∀ n, json.member? key ≠ some (.number n)) ∧ coordinateOf key json = .ok none := by
  unfold coordinateOf
  cases present : json.member? key with
  | none => exact .inr ⟨fun n same => (by cases same), rfl⟩
  | some value =>
    cases value with
    | null => exact .inr ⟨fun n same => (by cases same), rfl⟩
    | number n => exact .inl ⟨n, rfl, rfl⟩
    | bool | string | array | object =>
      exact absurd ⟨_, present, fun same => (by cases same), fun n same => (by cases same)⟩ h

namespace TrackPoint

/-- The point has the telemetry of another one. -/
def SameTelemetry (p q : TrackPoint) : Prop :=
  p.battery = q.battery ∧ p.temperature = q.temperature ∧ p.date = q.date ∧ p.satellites = q.satellites ∧
    p.speed = q.speed

theorem locate_notObject (previous : TrackPoint) {json : Json} (h : ∀ members, json ≠ .object members) :
    (previous.locate json).1 = .error (.response (.notObject json)) := by
  cases json with
  | object members => exact absurd rfl (h members)
  | _ => rfl

/-- A misfit is refused, whichever of the two coordinates it is. -/
theorem locate_misfit (previous : TrackPoint) {members : List (String × Json)}
    (h : (Json.object members).HasMisfit) :
    ∃ fault, (previous.locate (.object members)).1 = .error (.response (.answer fault)) := by
  by_cases first : (Json.object members).Misfit "Lat"
  · obtain ⟨fault, refused⟩ := coordinateOf_misfit first
    refine ⟨fault, ?_⟩
    simp only [locate, refused]
  · obtain ⟨fault, refused⟩ := coordinateOf_misfit (h.resolve_left first)
    obtain ⟨n, -, read⟩ | ⟨-, read⟩ := coordinateOf_fit first
    · exact ⟨fault, by simp only [locate, read, refused]⟩
    · exact ⟨fault, by simp only [locate, read, refused]⟩

/-- **Any other object** moves the point: to its position, if both coordinates are numbers, and away from
any position otherwise. -/
theorem locate_object (previous : TrackPoint) {members : List (String × Json)}
    (h : ¬ (Json.object members).HasMisfit) :
    (∃ latitude longitude, (Json.object members).Locates latitude longitude ∧
      (previous.locate (.object members)).1 =
        .ok (previous.moveTo (some latitude.toFloat) (some longitude.toFloat))) ∨
    (∀ latitude longitude, ¬ (Json.object members).Locates latitude longitude) ∧
      (previous.locate (.object members)).1 = .ok (previous.moveTo none none) := by
  obtain ⟨first, second⟩ := not_or.mp h
  obtain ⟨x, isLatitude, latitude⟩ | ⟨noLatitude, latitude⟩ := coordinateOf_fit first
  · obtain ⟨y, isLongitude, longitude⟩ | ⟨noLongitude, longitude⟩ := coordinateOf_fit second
    · exact .inl ⟨x, y, ⟨isLatitude, isLongitude⟩, by simp only [locate, latitude, longitude]⟩
    · refine .inr ⟨fun _ y locates => noLongitude y locates.2, ?_⟩
      simp only [locate, latitude, longitude]
      rfl
  · refine .inr ⟨fun x _ locates => noLatitude x locates.1, ?_⟩
    obtain ⟨y, -, longitude⟩ | ⟨-, longitude⟩ := coordinateOf_fit second
    · simp only [locate, latitude, longitude]
      rfl
    · simp only [locate, latitude, longitude]
      rfl

/-- Where the point was does not matter. -/
theorem locateAnswer_moveTo (previous : TrackPoint) (latitude longitude : Option Float) (answer : Answer) :
    ((previous.moveTo latitude longitude).locateAnswer answer).1 = (previous.locateAnswer answer).1 := by
  rw [locateAnswer_fst, locateAnswer_fst]
  rfl

/-- Of an object only the two coordinates are looked at. -/
theorem locate_congr (previous : TrackPoint) {members members' : List (String × Json)}
    (latitude : (Json.object members).member? "Lat" = (Json.object members').member? "Lat")
    (longitude : (Json.object members).member? "Lon" = (Json.object members').member? "Lon") :
    (previous.locate (.object members)).1 = (previous.locate (.object members')).1 := by
  simp only [locate, coordinateOf, latitude, longitude]

end TrackPoint

/-! ## The request -/

/-- What an answer makes of a request on top of the previous point. A failure of the service is passed on.
Anything but an object, and an object with a misfit, is refused. Any other object gives the previous
telemetry at both coordinates of the object, or at none. -/
structure Answer.Decides (answer : Answer) (previous : TrackPoint) (result : Except Failure TrackPoint) :
    Prop where
  failed : ∀ error, answer = .error error → result = .error (.transport error)
  notObject : ∀ json, answer = .ok json → (∀ members, json ≠ .object members) →
    ∃ fault, result = .error (.transport (.response fault))
  misfit : ∀ members, answer = .ok (.object members) → (Json.object members).HasMisfit →
    ∃ fault, result = .error (.transport (.response fault))
  moved : ∀ members, answer = .ok (.object members) → ¬ (Json.object members).HasMisfit →
    ∃ p, result = .ok p ∧ p.SameTelemetry previous ∧
      ((∃ latitude longitude, (Json.object members).Locates latitude longitude ∧
          p.latitude = some latitude.toFloat ∧ p.longitude = some longitude.toFloat) ∨
        (∀ latitude longitude, ¬ (Json.object members).Locates latitude longitude) ∧
          p.latitude = none ∧ p.longitude = none)

theorem Answer.decides_locateAnswer (answer : Answer) (previous : TrackPoint) :
    answer.Decides previous ((previous.locateAnswer answer).1.mapError .transport) where
  failed := by
    rintro error rfl
    rfl
  notObject := by
    rintro json rfl noObject
    exact ⟨.notObject json, by rw [TrackPoint.locateAnswer, previous.locate_notObject noObject]; rfl⟩
  misfit := by
    rintro members rfl hasMisfit
    obtain ⟨fault, refused⟩ := previous.locate_misfit hasMisfit
    exact ⟨.answer fault, by rw [TrackPoint.locateAnswer, refused]; rfl⟩
  moved := by
    rintro members rfl noMisfit
    obtain ⟨x, y, locates, moved⟩ | ⟨nowhere, moved⟩ := previous.locate_object noMisfit
    · refine ⟨previous.moveTo (some x.toFloat) (some y.toFloat), ?_, ⟨rfl, rfl, rfl, rfl, rfl⟩,
        .inl ⟨x, y, locates, rfl, rfl⟩⟩
      rw [TrackPoint.locateAnswer, moved]
      rfl
    · refine ⟨previous.moveTo none none, ?_, ⟨rfl, rfl, rfl, rfl, rfl⟩, .inr ⟨nowhere, rfl, rfl⟩⟩
      rw [TrackPoint.locateAnswer, moved]
      rfl

section

variable {σ : Type} (service : Service σ) (state : σ) {request : PositionRequest} (topics : Topics)
  (timeout : Duration) (previous : TrackPoint)

theorem resolve_of_not_fits (h : ¬ request.Fits) :
    resolve service state request topics timeout previous =
      { result := .error (.payloadTooLarge request.toJson.text.utf8ByteSize messageLimit)
        state, calls := [], log := [] } := by
  rw [resolve, PositionRequest.envelope_of_not_fits h]

theorem resolve_of_fits (h : request.Fits) :
    let r := resolve service state request topics timeout previous
    r.result = ((previous.locateAnswer (service (request.call topics timeout) state).1).1).mapError .transport ∧
      r.calls = [request.call topics timeout] ∧ r.state = (service (request.call topics timeout) state).2 := by
  simp only [resolve, PositionRequest.envelope_of_fits h]
  exact ⟨rfl, rfl, rfl⟩

end

/-- **A request is decided by its envelope and its answer.** If the envelope fits, the service is asked
once and its answer decides; otherwise the service is left alone. The outcome is the same whatever the
previous position was, and whatever else than the two coordinates an object holds. -/
theorem resolve_outcome {σ : Type} (service : Service σ) (state : σ) (request : PositionRequest)
    (topics : Topics) (timeout : Duration) (previous : TrackPoint) :
    (request.Fits →
      (resolve service state request topics timeout previous).calls = [request.call topics timeout] ∧
      (resolve service state request topics timeout previous).state =
        (service (request.call topics timeout) state).2 ∧
      (service (request.call topics timeout) state).1.Decides previous
        (resolve service state request topics timeout previous).result) ∧
    (¬ request.Fits →
      (resolve service state request topics timeout previous).calls = [] ∧
      (resolve service state request topics timeout previous).state = state ∧
      (resolve service state request topics timeout previous).result =
        .error (.payloadTooLarge request.toJson.text.utf8ByteSize messageLimit)) ∧
    (∀ latitude longitude,
      (resolve service state request topics timeout (previous.moveTo latitude longitude)).result =
        (resolve service state request topics timeout previous).result) ∧
    ∀ (other : Service σ) (members members' : List (String × Json)),
      (service (request.call topics timeout) state).1 = .ok (.object members) →
      (other (request.call topics timeout) state).1 = .ok (.object members') →
      (Json.object members).member? "Lat" = (Json.object members').member? "Lat" →
      (Json.object members).member? "Lon" = (Json.object members').member? "Lon" →
      (resolve service state request topics timeout previous).result =
        (resolve other state request topics timeout previous).result := by
  by_cases fits : request.Fits
  · obtain ⟨result, calls, after⟩ := resolve_of_fits service state topics timeout previous fits
    refine ⟨fun _ => ⟨calls, after, ?_⟩, fun not => absurd fits not, fun latitude longitude => ?_,
      fun other members members' answer answer' sameLatitude sameLongitude => ?_⟩
    · rw [result]
      exact Answer.decides_locateAnswer _ previous
    · obtain ⟨result', -⟩ :=
        resolve_of_fits service state topics timeout (previous.moveTo latitude longitude) fits
      rw [result, result', TrackPoint.locateAnswer_moveTo]
    · obtain ⟨result', -⟩ := resolve_of_fits other state topics timeout previous fits
      rw [result, result', answer, answer']
      exact congrArg (·.mapError Failure.transport) (previous.locate_congr sameLatitude sameLongitude)
  · have refused := fun (other : Service σ) (p : TrackPoint) =>
      resolve_of_not_fits other state topics timeout p fits
    refine ⟨fun yes => absurd yes fits, fun _ => ?_, fun latitude longitude => ?_,
      fun other members members' _ _ _ _ => ?_⟩
    · rw [refused]
      exact ⟨rfl, rfl, rfl⟩
    · rw [refused, refused]
    · rw [refused, refused]

end SatelliteTrack
