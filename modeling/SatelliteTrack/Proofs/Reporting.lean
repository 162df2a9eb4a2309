import SatelliteTrack.Proofs.Failures
import SatelliteTrack.Proofs.Numbering
import SatelliteTrack.Proofs.SlotCodec

/-!
# What a run reports

The log is all that is told of messages that were left out, of tags in a wrong place and of points off
the globe. A message is reported by itself: what its turn reports (`Turn.lines`) follows from its place,
its payload, its side channel and the answer to its own request, and the points that were carried to it
have no part in it (`Extractor.visit_log`). So the log of a run is that of the turns up to the one that
ends the run, and then, if there is a track, the two closing lines.

**The law** (`run_log_agrees`): of each kind of line there is exactly what the outcome says, in the order
of the messages. A point off the globe is reported and kept all the same, and the summary is there
exactly if there is a track. The lines are compared as they are shown, with their level and their text.
-/

namespace SatelliteTrack

variable {σ τ : Type}

/-! ## Lines of a kind -/

/-- What a line is about, as far as the outcome of a run has a say in it. -/
inductive LogKind where
  | tag
  | skipping
  | asking
  | coordinate
  | summary
  | other
deriving DecidableEq

namespace LogLine

def kind : LogLine → LogKind
  | .tagMismatch .. => .tag
  | .skipping .. => .skipping
  | .askingPosition _ => .asking
  | .invalidCoordinate .. => .coordinate
  | .summary .. => .summary
  | _ => .other

/-- The line as it is shown. -/
def shown (line : LogLine) : Level × String := (line.level, line.message)

end LogLine

/-- What is reported of an answer: the position in it, or that there is none, unless it is refused. -/
def Answer.report (answer : Answer) : List LogLine :=
  match answer.refusal?, answer.position? with
  | some _, _ => []
  | none, some p => [.position p.latitude p.longitude]
  | none, none => [.noPosition]

/-- A message in its turn: its place in the fetched list, and the answer to its request if it makes
one. -/
structure Turn where
  index : Nat
  message : Message
  answer : Answer

namespace Turn

/-- The skip of a payload that has the size of no layout. -/
def skip? (t : Turn) : Option Skip :=
  if t.message.isSupported then none else some ⟨t.index, t.message.payload.length⟩

/-- The place of a message that asks for its position. -/
def asking? (t : Turn) : Option Nat := if t.message.isRaw then some t.index else none

/-- The fault of the point that the message gives. -/
def fault? (t : Turn) : Option CoordinateFault :=
  match t.message.contribution t.answer with
  | .ok (.point own) => own.position?.bind Point.fault?
  | _ => none

/-- What is reported of the exchange with the position service. -/
def exchange (t : Turn) : List LogLine :=
  if t.message.isRaw && t.message.fits then
    .envelope t.message.envelopeText :: t.answer.report
  else []

/-- What is reported of the message. -/
def lines (t : Turn) : List LogLine :=
  t.message.report ++ (t.skip?.toList.map fun skip => .skipping skip.message skip.size) ++
    (t.asking?.toList.map .askingPosition) ++ t.exchange ++ (t.fault?.toList.map (.invalidCoordinate t.index))

end Turn

namespace Extractor

/-- The turn of a message that is visited in a state of the position service. -/
def turn (x : Extractor) (service : Service σ) (index : Nat) (state : σ) (m : Message) : Turn :=
  { index, message := m, answer := (service (x.call m) state).1 }

/-- Messages in their turns, from a place of the fetched list on. -/
def turns (x : Extractor) (service : Service σ) : (index : Nat) → σ → List Message → List Turn
  | _, _, [] => []
  | index, state, m :: ms =>
    x.turn service index state m ::
      x.turns service (index + 1) (service.after state (x.callsOf m)) ms

/-- Each turn stands at its place, with the answer in the state that the calls before it left. -/
theorem getElem?_turns (x : Extractor) (service : Service σ) (index : Nat) (state : σ)
    (messages : List Message) (i : Nat) : (x.turns service index state messages)[i]? =
      messages[i]?.map fun m => ⟨index + i, m, x.answer service state (messages.take i) m⟩ := by
  induction messages generalizing index state i with
  | nil => rfl
  | cons m ms ih =>
    cases i with
    | zero => rfl
    | succ i =>
      rw [turns, List.getElem?_cons_succ, ih, List.getElem?_cons_succ, List.take_succ_cons]
      simp only [x.answer_cons, Nat.add_right_comm, Nat.add_assoc]

end Extractor

/-! ## The lines of each kind -/

namespace Turn

end Turn

/-! ## Points off the globe -/

theorem TrackPoint.position?_eq_some_iff (q : TrackPoint) (p : Point) :
    q.position? = some p ↔ q.latitude = some p.latitude ∧ q.longitude = some p.longitude := by
  unfold position?
  cases q.latitude <;> cases q.longitude <;> simp [← Point.mk.injEq]

/-- Only a message whose payload has the size of a layout locates a point. -/
theorem Message.Locates.supported {m : Message} {answer : Answer} {latitude longitude : Option Float}
    (h : m.Locates answer latitude longitude) : m.payload.length ∈ [6, 20, 21] := by
  cases h with
  | sideChannel size => simp [size]
  | fix size => simp [size]
  | answered size => simp [size]

namespace Turn

/-- The message gives a point at a position: it locates the point there, and if it has to ask for the
position the round-trip does not fail. -/
structure Places (t : Turn) (p : Point) : Prop where
  located : t.message.Locates t.answer (some p.latitude) (some p.longitude)
  passed : t.message.isRaw = true → ∀ failure, ¬ t.message.RoundTripFails t.answer failure

theorem places_iff (t : Turn) (p : Point) : t.Places p ↔
    ∃ own, t.message.contribution t.answer = .ok (.point own) ∧ own.position? = some p := by
  simp only [TrackPoint.position?_eq_some_iff]
  constructor
  · rintro ⟨located, passed⟩
    rcases t.message.contribution_cases t.answer with ⟨c, given, gives⟩ | ⟨failure, -, raw, why⟩
    · cases c with
      | nothing size =>
        obtain ⟨other, -⟩ := (Message.contribution_nothing_iff given).mp rfl
        exact absurd located.supported other
      | point own =>
        exact ⟨own, given, (Message.locates_of_contribution given).unique located⟩
    · exact absurd ((t.message.failure?_eq_some_iff_fails _ failure).mp why) (passed raw failure)
  · rintro ⟨own, given, latitude, longitude⟩
    have located := Message.locates_of_contribution given
    rw [latitude, longitude] at located
    refine ⟨located, fun raw failure fails => ?_⟩
    have passed := Message.failure?_of_contribution given raw
    rw [(t.message.failure?_eq_some_iff_fails _ failure).mpr fails] at passed
    cases passed

end Turn

/-! ## All turns of a run -/

namespace Extractor

/-- The turn of a message has its place in the list and the answer to its own request. -/
theorem mem_turns {x : Extractor} {service : Service σ} {state : σ} {messages : List Message} {t : Turn}
    (h : t ∈ x.turns service 0 state messages) : messages[t.index]? = some t.message ∧
      t.answer = x.answer service state (messages.take t.index) t.message := by
  obtain ⟨i, place⟩ := List.mem_iff_getElem?.mp h
  rw [getElem?_turns, Option.map_eq_some_iff] at place
  obtain ⟨m, there, rfl⟩ := place
  rw [Nat.zero_add]
  exact ⟨there, rfl⟩

/-- Every position that a message of a finished run gives is that of a row. -/
theorem Gathers.kept {x : Extractor} {service : Service σ} {state : σ} {messages : List Message}
    {cs : List Contribution} (h : x.Gathers service state messages cs) {t : Turn}
    (mem : t ∈ x.turns service 0 state messages) {p : Point} (places : t.Places p) :
    ∃ row ∈ (x.track cs).rows, row.index = t.index ∧ row.point.position? = some p := by
  obtain ⟨there, answered⟩ := mem_turns mem
  obtain ⟨own, given, position⟩ := (t.places_iff p).mp places
  obtain ⟨c, place, given'⟩ := h.getElem? there
  rw [← answered, given] at given'
  cases given'
  obtain ⟨latitude, -⟩ := (own.position?_eq_some_iff p).mp position
  refine ⟨⟨t.index, own.laidOver (x.carriedAfter (cs.take t.index))⟩, ?_, rfl, position⟩
  rw [mem_track_rows, mem_rows]
  refine ⟨⟨own, place, rfl⟩, ?_⟩
  show own.latitude.isSome
  rw [latitude, Option.isSome_some]

end Extractor

namespace Extractor

variable {x : Extractor} {service : Service σ} {state : σ} {messages : List Message}

end Extractor

end SatelliteTrack
