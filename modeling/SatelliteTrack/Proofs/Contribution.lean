import SatelliteTrack.Proofs.Exchange
import SatelliteTrack.Proofs.Logbook

/-!
# What each message gives by itself

A point that is decoded on top of another takes over the telemetry that its own slot does not carry,
and nothing else: `TrackPoint.laidOver`. So a message gives something of its own, its `contribution`,
which depends on its payload, its side channel and the answer to its own request, and on no other
message. `visit_contribution` is the law of a visit: it notes the contribution on top of the previous
point.

A contribution fails only where a round-trip does (`contribution_eq_error_iff`): a payload whose size is
that of a layout always holds a slot, and the one without is skipped.
-/

namespace SatelliteTrack

variable {σ : Type}

/-! ## One message -/

/-- A point whose unset telemetry is taken over from an earlier point. The position is its own. -/
def TrackPoint.laidOver (own previous : TrackPoint) : TrackPoint :=
  { own with
    battery := own.battery.or previous.battery
    temperature := own.temperature.or previous.temperature
    date := own.date.or previous.date
    satellites := own.satellites.or previous.satellites
    speed := own.speed.or previous.speed }

theorem TrackPoint.moveToAnswer_laidOver (answer : Answer) (previous : TrackPoint) :
    (TrackPoint.empty.moveToAnswer answer).laidOver previous = previous.moveToAnswer answer := by
  simp only [laidOver, moveToAnswer, moveTo, empty, Option.none_or]

/-- What a message gives by itself. -/
inductive Contribution where
  /-- The payload holds no slot. -/
  | nothing (size : Nat)
  /-- The point, decoded on top of nothing. -/
  | point (own : TrackPoint)

/-- What a message gives by itself, with the answer to its request if it asks for its position. -/
def Message.contribution (m : Message) (answer : Answer) : Except Failure Contribution :=
  match m.decode .empty with
  | .error (.unsupported size) => .ok (.nothing size)
  | .error (.residue bytes) => .error (.parse bytes)
  | .ok (.point own) => .ok (.point own)
  | .ok (.pending _) =>
    match m.failure? answer with
    | some failure => .error failure
    | none => .ok (.point (TrackPoint.empty.moveToAnswer answer))

namespace Contribution

/-- What is noted about a contribution on top of the previous point. -/
def note (index : Nat) (previous : TrackPoint) : Contribution → LogbookNote
  | .nothing size => .skip index size
  | .point own => .enter index (own.laidOver previous)

end Contribution

namespace Message

/-- The point that a sensor report gives by itself. -/
def sensorPoint (m : Message) (r : SensorReport) : TrackPoint :=
  { latitude := m.latitude, longitude := m.longitude, battery := some (volts r.battery),
    temperature := some r.temperature, date := some r.time.toInt }

end Message

/-- The point that a fix gives by itself. -/
def FixSlot.point (s : FixSlot) : TrackPoint :=
  { latitude := some (degrees s.latitude), longitude := some (degrees s.longitude),
    battery := some (volts s.battery), temperature := some s.temperature, date := some s.time.toInt,
    satellites := some s.satellites, speed := some s.speed }

namespace Message

theorem contribution_sensor {m : Message} {r : SensorReport} (h : Slot.decode m.payload = .ok (.sensor r))
    (answer : Answer) : m.contribution answer = .ok (.point (m.sensorPoint r)) := by
  simp only [contribution, decode, h]
  rfl

theorem contribution_fix {m : Message} {s : FixSlot} (h : Slot.decode m.payload = .ok (.fix s))
    (answer : Answer) : m.contribution answer = .ok (.point s.point) := by
  simp only [contribution, decode, h]
  rfl

theorem contribution_raw {m : Message} {s : RawSlot} (h : Slot.decode m.payload = .ok (.raw s))
    (answer : Answer) : m.contribution answer = match m.failure? answer with
      | some failure => .error failure
      | none => .ok (.point (TrackPoint.empty.moveToAnswer answer)) := by
  simp only [contribution, decode, h]
  rfl

theorem contribution_unsupported {m : Message} {size : Nat}
    (h : Slot.decode m.payload = .error (.unsupported size)) (answer : Answer) :
    m.contribution answer = .ok (.nothing size) := by
  simp only [contribution, decode, h]
  rfl

/-- What a message gives, by the size of its payload. -/
inductive Gives (m : Message) (answer : Answer) : Contribution → Prop
  | sensor (size : m.payload.length = 6) {r : SensorReport}
      (slot : Slot.decode m.payload = .ok (.sensor r)) : Gives m answer (.point (m.sensorPoint r))
  | fix (size : m.payload.length = 20) {s : FixSlot} (slot : Slot.decode m.payload = .ok (.fix s)) :
      Gives m answer (.point s.point)
  | raw (size : m.payload.length = 21) (passed : m.failure? answer = none) :
      Gives m answer (.point (TrackPoint.empty.moveToAnswer answer))
  | unsupported (size : m.payload.length ∉ [6, 20, 21]) : Gives m answer (.nothing m.payload.length)

/-- **What a message gives is decided by the size of its payload**, and for raw measurements by the
round-trip, the only place where a message can fail. -/
theorem contribution_cases (m : Message) (answer : Answer) :
    (∃ c, m.contribution answer = .ok c ∧ m.Gives answer c) ∨
      ∃ failure, m.contribution answer = .error failure ∧ m.isRaw = true ∧
        m.failure? answer = some failure := by
  rcases m.slot_cases with ⟨size, r, slot⟩ | ⟨size, s, slot⟩ | ⟨size, s, slot, -⟩ | ⟨size, slot⟩
  · exact .inl ⟨_, contribution_sensor slot answer, .sensor size slot⟩
  · exact .inl ⟨_, contribution_fix slot answer, .fix size slot⟩
  · rw [contribution_raw slot]
    cases given : m.failure? answer with
    | none => exact .inl ⟨_, rfl, .raw size given⟩
    | some failure => exact .inr ⟨failure, rfl, by simp [isRaw, size], rfl⟩
  · exact .inl ⟨_, contribution_unsupported slot answer, .unsupported size⟩

theorem gives_of_contribution {m : Message} {answer : Answer} {c : Contribution}
    (h : m.contribution answer = .ok c) : m.Gives answer c := by
  rcases m.contribution_cases answer with ⟨c', given, gives⟩ | ⟨failure, failed, -⟩
  · rw [h] at given
    cases given
    exact gives
  · rw [h] at failed
    cases failed

theorem contribution_eq_error_iff (m : Message) (answer : Answer) (failure : Failure) :
    m.contribution answer = .error failure ↔ m.isRaw = true ∧ m.failure? answer = some failure := by
  rcases m.contribution_cases answer with ⟨c, given, gives⟩ | ⟨failure', failed, raw, why⟩
  · rw [given]
    refine ⟨nofun, fun ⟨raw, failed⟩ => ?_⟩
    rw [isRaw, decide_eq_true_eq] at raw
    cases gives with
    | sensor size => omega
    | fix size => omega
    | raw _ passed => rw [passed] at failed; cases failed
    | unsupported size => simp [raw] at size
  · rw [failed, why]
    simp [raw]

/-- Raw measurements give something only when their round-trip passes. -/
theorem failure?_of_contribution {m : Message} {answer : Answer} {c : Contribution}
    (given : m.contribution answer = .ok c) (raw : m.isRaw = true) : m.failure? answer = none := by
  cases failed : m.failure? answer with
  | none => rfl
  | some failure =>
    rw [(m.contribution_eq_error_iff answer failure).mpr ⟨raw, failed⟩] at given
    cases given

end Message

/-! ## Visiting one message -/

namespace Extractor

theorem callsOf_of_length_ne (x : Extractor) {m : Message} (h : m.payload.length ≠ 21) :
    x.callsOf m = [] := by
  simp [callsOf, Message.isRaw, h]

/-- **A visit** notes the contribution of the message on top of the previous point, and calls the service
as the message asks for it. -/
theorem visit_contribution (x : Extractor) (service : Service σ) (index : Nat) (previous : TrackPoint)
    (state : σ) (m : Message) :
    let v := x.visit service index previous state m
    v.result = (m.contribution (service (x.call m) state).1).map (Contribution.note index previous) ∧
      v.state = service.after state (x.callsOf m) ∧ v.calls = x.callsOf m := by
  rcases m.slot_cases with ⟨size, r, h⟩ | ⟨size, s, h⟩ | ⟨size, s, h, rest⟩ | ⟨size, h⟩
  · rw [Message.contribution_sensor h, x.callsOf_of_length_ne (by omega)]
    simp only [visit, Message.decode, h]
    exact ⟨rfl, rfl, rfl⟩
  · rw [Message.contribution_fix h, x.callsOf_of_length_ne (by omega)]
    simp only [visit, Message.decode, h]
    exact ⟨rfl, rfl, rfl⟩
  · obtain ⟨result, after, calls⟩ := resolve_request x service state s.tag m previous
    rw [← rest] at result after calls
    have asked : x.callsOf m = if m.fits then [x.call m] else [] := by
      simp [callsOf, Message.isRaw, size]
    rw [Message.contribution_raw h, asked]
    simp only [visit, Message.decode, h, Except.map, Slot.apply]
    generalize resolve service state _ x.topics x.timeout previous = r at result after calls ⊢
    rw [result]
    cases m.failure? (service (x.call m) state).1 with
    | some failure => exact ⟨rfl, after, calls⟩
    | none => exact ⟨by simp only [Contribution.note, TrackPoint.moveToAnswer_laidOver], after, calls⟩
  · rw [Message.contribution_unsupported h, x.callsOf_of_length_ne (by simp_all)]
    simp only [visit, Message.decode, h]
    exact ⟨rfl, rfl, rfl⟩

end Extractor

end SatelliteTrack
