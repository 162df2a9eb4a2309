import Mathlib.Data.List.Forall2
import SatelliteTrack.Proofs.Carrying
import SatelliteTrack.Proofs.SlotCodec

/-!
# Inputs that have no influence

A format uses a part of what a message holds. The tag of a slot is reported and not looked at again; a
slot with a position of its own, or one that waits for it, has no use for the side channel; the creation
date goes into the envelope of raw measurements and nowhere else; and of a payload that holds no slot
only the size counts. Messages that agree in all the rest are `Message.Alike`, and `run_unused_inputs`
says that a run cannot tell them apart: it makes the same calls and ends with the same result.

The side channel of a sensor report does count, for the position of that report alone. So the law is
proved with such reports at other positions too (`Message.Moved`), and says what differs then: the
latitude and the longitude of what is noted about these reports, and with them whether a row is complete.

To forget positions (`withoutPosition`) commutes with all that a run does to points: with laying one over
another, with carrying and with taking notes. That is the whole argument, once messages are known to
give the same but for positions.
-/

namespace SatelliteTrack

variable {σ : Type}

/-! ## Messages that are used alike -/

namespace Message

/-- The second message agrees with the first one in everything that is used of it. -/
inductive Alike (m n : Message) : Prop
  | sensor (size : m.payload.length = 6) (payload : n.payload = m.payload)
      (latitude : n.latitude = m.latitude) (longitude : n.longitude = m.longitude)
  | fix (size : m.payload.length = 20) (sameSize : n.payload.length = 20)
      (fields : n.payload.drop 1 = m.payload.drop 1)
  | raw (size : m.payload.length = 21) (sameSize : n.payload.length = 21)
      (measurements : n.payload.drop 1 = m.payload.drop 1) (created : n.created = m.created)
  | unsupported (other : m.payload.length ∉ [6, 20, 21])
      (sameSize : n.payload.length = m.payload.length)

/-- The second message is the sensor report of the first one with any side channel. -/
structure Moved (m n : Message) : Prop where
  size : m.payload.length = 6
  payload : n.payload = m.payload

/-- The second message is used as the first one is, but for the position of a sensor report. -/
def AlikeButPosition (m n : Message) : Prop := m.Alike n ∨ m.Moved n

end Message

/-- The message at a place of two lists is used alike. -/
def AlikeAt (messages others : List Message) (i : Nat) : Prop :=
  ∀ m n : Message, messages[i]? = some m → others[i]? = some n → m.Alike n

theorem alikeAt_of_forall₂ {messages others : List Message}
    (alike : List.Forall₂ Message.Alike messages others) (i : Nat) : AlikeAt messages others i := by
  intro m n here there
  induction alike generalizing i with
  | nil => cases here
  | cons head _ ih =>
    cases i with
    | zero =>
      cases here
      cases there
      exact head
    | succ i => exact ih i here there

/-- A fix has its fields behind the tag: payloads that differ in the tag alone hold the same point. -/
theorem FixSlot.exists_decode_of_drop {bytes other : Bytes} {s : FixSlot} (size : other.length = 20)
    (read : Slot.decode bytes = .ok (.fix s)) (fields : other.drop 1 = bytes.drop 1) :
    ∃ t : FixSlot, Slot.decode other = .ok (.fix t) ∧ t.point = s.point := by
  obtain ⟨t, read'⟩ := Slot.decode_of_length_fix size
  obtain ⟨-, rfl⟩ := (Slot.decode_eq_ok_iff _ _).mp read
  obtain ⟨canonical, rfl⟩ := (Slot.decode_eq_ok_iff _ _).mp read'
  -- the other payload is written for the first fix under the other tag
  have written : (Slot.fix t).encode = (Slot.fix { s with tag := t.tag }).encode :=
    congrArg (t.tag.toByte :: ·) fields
  have retagged : (Slot.fix { s with tag := t.tag }).IsCanonical := canonical
  refine ⟨{ s with tag := t.tag }, ?_, rfl⟩
  rw [written, Slot.decode_encode retagged]

/-! ## What is given but for positions -/

/-- What a message gives, without the position. -/
def Contribution.withoutPosition : Contribution → Contribution
  | .nothing size => .nothing size
  | .point own => .point own.withoutPosition

/-- What is noted, without the position. -/
def LogbookNote.withoutPosition : LogbookNote → LogbookNote
  | .enter index point => .enter index point.withoutPosition
  | .skip index size => .skip index size

/-- The position of the point below is hidden. -/
theorem TrackPoint.laidOver_congr {p q : TrackPoint} (own : TrackPoint)
    (same : p.withoutPosition = q.withoutPosition) : own.laidOver p = own.laidOver q := by
  have hidden : ∀ r : TrackPoint, own.laidOver r = own.laidOver r.withoutPosition := fun r => rfl
  rw [hidden, same, ← hidden]

theorem Contribution.note_congr (index : Nat) {p q : TrackPoint}
    (same : p.withoutPosition = q.withoutPosition) : Contribution.note index p = note index q := by
  funext c
  cases c with
  | nothing size => rfl
  | point own => exact congrArg (LogbookNote.enter index) (TrackPoint.laidOver_congr own same)

/-- What is gathered, without the positions. -/
def Gathering.withoutPositions (g : Gathering) : Gathering :=
  { g with result := g.result.map (List.map Contribution.withoutPosition) }

theorem Gathering.withoutPositions_append (earlier later : Gathering) :
    (earlier ++ later).withoutPositions = earlier.withoutPositions ++ later.withoutPositions := by
  cases first : earlier.result with
  | error failure =>
    have stopped : earlier.withoutPositions.result = .error failure := by
      rw [withoutPositions, first]
      rfl
    rw [append_of_error first, append_of_error stopped]
  | ok cs =>
    have went : earlier.withoutPositions.result = .ok (cs.map Contribution.withoutPosition) := by
      rw [withoutPositions, first]
      rfl
    rw [append_of_ok first, append_of_ok went]
    simp only [withoutPositions, mk.injEq, and_true]
    cases later.result with
    | error failure => rfl
    | ok ds => exact congrArg Except.ok List.map_append

namespace Message

variable {m n : Message}

theorem envelopeText_congr (measurements : n.payload.drop 1 = m.payload.drop 1)
    (created : n.created = m.created) : n.envelopeText = m.envelopeText := by
  rw [envelopeText, measurements, created]
  rfl

/-- Messages that are used alike ask for the same. -/
theorem AlikeButPosition.callsOf_eq (h : m.AlikeButPosition n) (x : Extractor) :
    x.callsOf n = x.callsOf m := by
  -- only messages with raw measurements ask
  have unasked : m.payload.length ≠ 21 → n.payload.length ≠ 21 → x.callsOf n = x.callsOf m := by
    intro size sameSize
    rw [x.callsOf_of_length_ne size, x.callsOf_of_length_ne sameSize]
  rcases h with (⟨size, payload⟩ | ⟨size, sameSize⟩ | ⟨size, sameSize, measurements, created⟩ |
    ⟨other, sameSize⟩) | ⟨size, payload⟩
  · exact unasked (by omega) (by rw [payload]; omega)
  · exact unasked (by omega) (by omega)
  · have envelope := envelopeText_congr measurements created
    have raw : n.isRaw = m.isRaw := by rw [isRaw, isRaw, size, sameSize]
    rw [Extractor.callsOf, Extractor.callsOf, raw, fits, fits, Extractor.call, Extractor.call, envelope]
  · have ne : m.payload.length ≠ 21 := fun size => other (by simp [size])
    exact unasked ne (sameSize ▸ ne)
  · exact unasked (by omega) (by rw [payload]; omega)

/-- Messages that are used alike give the same. -/
theorem Alike.contribution_eq (h : m.Alike n) (x : Extractor) (service : Service σ) (state : σ) :
    n.contribution (service (x.call n) state).1 = m.contribution (service (x.call m) state).1 := by
  cases h with
  | sensor size payload latitude longitude =>
    obtain ⟨r, read⟩ := Slot.decode_of_length_sensor size
    rw [contribution_sensor read, contribution_sensor (payload ▸ read), sensorPoint, sensorPoint, latitude,
      longitude]
  | fix size sameSize fields =>
    obtain ⟨s, read⟩ := Slot.decode_of_length_fix size
    obtain ⟨t, read', point⟩ := FixSlot.exists_decode_of_drop sameSize read fields
    rw [contribution_fix read, contribution_fix read', point]
  | raw size sameSize measurements created =>
    obtain ⟨s, read, -⟩ := Slot.decode_of_length_raw size
    obtain ⟨t, read', -⟩ := Slot.decode_of_length_raw sameSize
    have envelope := envelopeText_congr measurements created
    have call : x.call n = x.call m := by rw [Extractor.call, Extractor.call, envelope]
    rw [contribution_raw read, contribution_raw read', call, failure?, failure?, fits, fits, envelope]
  | unsupported other sameSize =>
    have other' : n.payload.length ∉ [6, 20, 21] := by rwa [sameSize]
    rw [contribution_unsupported (Slot.decode_of_length_other other),
      contribution_unsupported (Slot.decode_of_length_other other'), sameSize]

/-- A sensor report at another position gives the same but for the position. -/
theorem Moved.contribution_eq (h : m.Moved n) (answer answer' : Answer) :
    (n.contribution answer').map Contribution.withoutPosition =
      (m.contribution answer).map Contribution.withoutPosition := by
  obtain ⟨r, read⟩ := Slot.decode_of_length_sensor h.size
  rw [contribution_sensor read, contribution_sensor (h.payload ▸ read)]
  rfl

theorem AlikeButPosition.contribution_eq (h : m.AlikeButPosition n) (x : Extractor) (service : Service σ)
    (state : σ) : (n.contribution (service (x.call n) state).1).map Contribution.withoutPosition =
      (m.contribution (service (x.call m) state).1).map Contribution.withoutPosition := by
  rcases h with alike | moved
  · rw [alike.contribution_eq]
  · exact moved.contribution_eq _ _

end Message

namespace Extractor

variable {x : Extractor} {service : Service σ} {state : σ} {messages others : List Message}

theorem gatherOne_withoutPositions {m n : Message} (h : m.AlikeButPosition n) (x : Extractor)
    (service : Service σ) (state : σ) :
    (x.gatherOne service state n).withoutPositions = (x.gatherOne service state m).withoutPositions := by
  have single : ∀ r : Except Failure Contribution, (r.map ([·])).map (List.map .withoutPosition) =
      (r.map Contribution.withoutPosition).map ([·]) := by
    intro r
    cases r <;> rfl
  simp only [gatherOne, Gathering.withoutPositions, single, h.contribution_eq x, h.callsOf_eq x]

/-- **What is gathered** from messages that are used alike is the same but for positions. -/
theorem gather_withoutPositions (same : List.Forall₂ Message.AlikeButPosition messages others)
    (x : Extractor) (service : Service σ) (state : σ) :
    (x.gather service state others).withoutPositions =
      (x.gather service state messages).withoutPositions := by
  induction same generalizing state with
  | nil => rfl
  | cons head _ ih =>
    rw [gather, gather, Gathering.withoutPositions_append, Gathering.withoutPositions_append,
      gatherOne_withoutPositions head, head.callsOf_eq x, ih]

theorem flatMap_callsOf_eq (same : List.Forall₂ Message.AlikeButPosition messages others)
    (x : Extractor) : others.flatMap x.callsOf = messages.flatMap x.callsOf := by
  induction same with
  | nil => rfl
  | cons head _ ih => rw [List.flatMap_cons, List.flatMap_cons, head.callsOf_eq, ih]

/-- The contributions of a message that is used alike are the same. -/
theorem Gathers.getElem?_of_alike {cs ds : List Contribution}
    (same : List.Forall₂ Message.AlikeButPosition messages others)
    (h : x.Gathers service state messages cs) (h' : x.Gathers service state others ds) {i : Nat}
    (alike : AlikeAt messages others i) : ds[i]? = cs[i]? := by
  by_cases inside : i < messages.length
  · have inside' : i < others.length := by rwa [← same.length_eq]
    obtain ⟨c, here, given⟩ := h.getElem? (List.getElem?_eq_getElem inside)
    obtain ⟨d, there, given'⟩ := h'.getElem? (List.getElem?_eq_getElem inside')
    have used := alike _ _ (List.getElem?_eq_getElem inside) (List.getElem?_eq_getElem inside')
    rw [answer, flatMap_callsOf_eq (List.forall₂_take i same), used.contribution_eq, ← answer,
      given] at given'
    cases given'
    rw [here, there]
  · have outside : cs.length ≤ i := by
      rw [h.length_eq]
      exact Nat.le_of_not_lt inside
    have outside' : ds.length ≤ i := by
      rw [h'.length_eq, ← same.length_eq]
      exact Nat.le_of_not_lt inside
    rw [List.getElem?_eq_none outside, List.getElem?_eq_none outside']

/-! ## What is made of it -/

section

variable {cs ds : List Contribution}

theorem withoutPosition_foldl_carried (x : Extractor) (cs : List Contribution) (previous : TrackPoint) :
    (cs.foldl x.carried previous).withoutPosition =
      (cs.map Contribution.withoutPosition).foldl x.carried previous.withoutPosition := by
  induction cs generalizing previous with
  | nil => rfl
  | cons c cs ih =>
    have step : (x.carried previous c).withoutPosition =
        x.carried previous.withoutPosition c.withoutPosition := by
      cases c with
      | nothing size => rfl
      | point own => exact apply_ite _ _ _ _
    rw [List.foldl_cons, ih, step, List.map_cons, List.foldl_cons]

/-- What is carried to a message is the same but for the position, which is not used. -/
theorem withoutPosition_carriedAfter (x : Extractor)
    (same : ds.map Contribution.withoutPosition = cs.map Contribution.withoutPosition) (i : Nat) :
    (x.carriedAfter (ds.take i)).withoutPosition = (x.carriedAfter (cs.take i)).withoutPosition := by
  rw [carriedAfter, carriedAfter, withoutPosition_foldl_carried, withoutPosition_foldl_carried,
    List.map_take, List.map_take, same]

theorem notes_withoutPosition (x : Extractor)
    (same : ds.map Contribution.withoutPosition = cs.map Contribution.withoutPosition) :
    (x.notes 0 .empty ds).map LogbookNote.withoutPosition =
      (x.notes 0 .empty cs).map LogbookNote.withoutPosition := by
  have note : ∀ (c : Contribution) (i : Nat) (p : TrackPoint),
      (c.note i p).withoutPosition = c.withoutPosition.note i p.withoutPosition := by
    intro c i p
    cases c <;> rfl
  have noted : ∀ (es : List Contribution) (i : Nat),
      ((x.notes 0 .empty es).map LogbookNote.withoutPosition)[i]? =
        (es.map Contribution.withoutPosition)[i]?.map
          (Contribution.note i (x.carriedAfter (es.take i)).withoutPosition) := by
    intro es i
    simp only [List.getElem?_map, getElem?_notes, Option.map_map, Function.comp_def, note, Nat.zero_add,
      carriedAfter]
  apply List.ext_getElem?
  intro i
  rw [noted, noted, same, withoutPosition_carriedAfter x same]

/-- What is noted about one contribution does not depend on the positions of others. -/
theorem getElem?_notes_of_getElem? (x : Extractor)
    (same : ds.map Contribution.withoutPosition = cs.map Contribution.withoutPosition) {i : Nat}
    (here : ds[i]? = cs[i]?) : (x.notes 0 .empty ds)[i]? = (x.notes 0 .empty cs)[i]? := by
  rw [getElem?_notes, getElem?_notes, here]
  exact congrArg (cs[i]?.map ·) (Contribution.note_congr (0 + i) (withoutPosition_carriedAfter x same i))

theorem mem_rows_of_getElem? (x : Extractor)
    (same : ds.map Contribution.withoutPosition = cs.map Contribution.withoutPosition) {row : TrackRow}
    (here : ds[row.index]? = cs[row.index]?) : row ∈ x.rows ds ↔ row ∈ x.rows cs := by
  have laid : ∀ own : TrackPoint, own.laidOver (x.carriedAfter (ds.take row.index)) =
      own.laidOver (x.carriedAfter (cs.take row.index)) := fun own =>
    TrackPoint.laidOver_congr own (withoutPosition_carriedAfter x same row.index)
  simp only [mem_rows, here, laid]

theorem skipped_withoutPosition (x : Extractor)
    (same : ds.map Contribution.withoutPosition = cs.map Contribution.withoutPosition) :
    (x.track ds).skipped = (x.track cs).skipped := by
  have held : ∀ (es : List Contribution) (i size : Nat),
      es[i]? = some (.nothing size) ↔
        (es.map Contribution.withoutPosition)[i]? = some (.nothing size) := by
    intro es i size
    rw [List.getElem?_map]
    rcases es[i]? with _ | _ | _ <;> simp [Contribution.withoutPosition]
  refine (x.pairwise_skipped ds).eq_of_mem_iff (x.pairwise_skipped cs) ?_
  intro skip
  rw [mem_skipped, mem_skipped, held ds, held cs, same]

theorem collected_withoutPosition (x : Extractor)
    (same : ds.map Contribution.withoutPosition = cs.map Contribution.withoutPosition) :
    (x.track ds).collected = (x.track cs).collected := by
  have length := congrArg List.length same
  rw [List.length_map, List.length_map] at length
  have count := x.collected_add_skipped ds
  rw [length, skipped_withoutPosition x same, ← x.collected_add_skipped cs] at count
  exact Nat.add_right_cancel count

/-- The points of one message are the same but for the position. -/
theorem withoutPosition_of_mem_rows (x : Extractor)
    (same : ds.map Contribution.withoutPosition = cs.map Contribution.withoutPosition)
    {row other : TrackRow} (mem : row ∈ x.rows cs) (mem' : other ∈ x.rows ds)
    (number : other.index = row.index) : other.point.withoutPosition = row.point.withoutPosition := by
  obtain ⟨own, place, laid⟩ := (x.mem_rows cs row).mp mem
  obtain ⟨own', place', laid'⟩ := (x.mem_rows ds other).mp mem'
  have given : (ds.map Contribution.withoutPosition)[row.index]? =
      (cs.map Contribution.withoutPosition)[row.index]? := by rw [same]
  rw [List.getElem?_map, List.getElem?_map, place, ← number, place'] at given
  have points : own'.withoutPosition = own.withoutPosition :=
    Contribution.point.inj (Option.some.inj given)
  calc other.point.withoutPosition
    _ = own'.withoutPosition.laidOver (x.carriedAfter (ds.take row.index)) := by rw [laid', number]; rfl
    _ = own.withoutPosition.laidOver (x.carriedAfter (cs.take row.index)) := by
      rw [points]
      exact TrackPoint.laidOver_congr _ (withoutPosition_carriedAfter x same row.index)
    _ = row.point.withoutPosition := by rw [laid]; rfl

end

end Extractor

/-! ## Both runs -/

/-- What is made of two lists of messages, in notes and in the end, differs in the positions of sensor
reports alone. -/
structure SameButPositions (messages others : List Message) (noted otherNoted : List LogbookNote)
    (track otherTrack : Track) : Prop where
  /-- The points that are noted, complete or not, are the same but for the position. -/
  telemetry : otherNoted.map LogbookNote.withoutPosition = noted.map LogbookNote.withoutPosition
  /-- What is noted about a message that is used alike is the same. -/
  unmoved : ∀ i, AlikeAt messages others i → otherNoted[i]? = noted[i]?
  collected : otherTrack.collected = track.collected
  skipped : otherTrack.skipped = track.skipped
  /-- The rows of messages that are used alike are the same, in the same order. -/
  rows : ∀ kept : Nat → Bool, (∀ i, kept i → AlikeAt messages others i) →
    (otherTrack.rows.filter fun row => kept row.index) = track.rows.filter fun row => kept row.index
  /-- The rows of any message are the same but for the position. -/
  points : ∀ row ∈ track.rows, ∀ other ∈ otherTrack.rows, other.index = row.index →
    other.point.withoutPosition = row.point.withoutPosition

/-- Where all messages are used alike, the tracks are the same. -/
theorem SameButPositions.track_eq {messages others : List Message} {noted otherNoted : List LogbookNote}
    {track otherTrack : Track}
    (h : SameButPositions messages others noted otherNoted track otherTrack)
    (alike : ∀ i, AlikeAt messages others i) : otherTrack = track := by
  have rows := h.rows (fun _ => true) fun i _ => alike i
  rw [List.filter_true, List.filter_true] at rows
  exact Track.ext rows h.collected h.skipped

namespace Extractor

variable {x : Extractor} {service : Service σ} {state : σ} {messages others : List Message}
  {cs ds : List Contribution}

theorem Gathers.walk_eq (h : x.Gathers service state messages cs) :
    (x.walk service 0 .empty state messages).result = .ok (x.notes 0 .empty cs) := by
  obtain ⟨-, ⟨cs', gathers, done, -⟩ | ⟨before, m, rest, cs', failure, rfl, gathers, failed, -⟩⟩ :=
    x.walk_cases service 0 .empty state messages
  · have same := gathers.gather_eq
    rw [h.gather_eq] at same
    cases same
    exact done
  · have stopped := gathers.gather_stopped failed rest
    rw [h.gather_eq] at stopped
    cases stopped

theorem Gathers.sameButPositions (h : x.Gathers service state messages cs)
    (h' : x.Gathers service state others ds)
    (same : List.Forall₂ Message.AlikeButPosition messages others)
    (given : ds.map Contribution.withoutPosition = cs.map Contribution.withoutPosition) :
    SameButPositions messages others (x.notes 0 .empty cs) (x.notes 0 .empty ds) (x.track cs)
      (x.track ds) where
  telemetry := notes_withoutPosition x given
  unmoved i alike := getElem?_notes_of_getElem? x given (h.getElem?_of_alike same h' alike)
  collected := collected_withoutPosition x given
  skipped := skipped_withoutPosition x given
  rows := by
    intro kept alike
    refine TrackRow.eq_of_pairwise_before ((x.pairwise_track_rows cs).filter _)
      ((x.pairwise_track_rows ds).filter _) ?_
    intro row
    rw [List.mem_filter, List.mem_filter, mem_track_rows, mem_track_rows]
    refine and_congr_left fun keep => and_congr_left fun _ => ?_
    exact mem_rows_of_getElem? x given (h.getElem?_of_alike same h' (alike _ keep))
  points := by
    intro row mem other mem' number
    exact withoutPosition_of_mem_rows x given ((x.mem_track_rows cs row).mp mem).1
      ((x.mem_track_rows ds other).mp mem').1 number

/-- Both lists of messages give a failure, the same one, or both give their contributions. -/
theorem gather_cases (same : List.Forall₂ Message.AlikeButPosition messages others) (x : Extractor)
    (service : Service σ) (state : σ) :
    (x.gather service state others).calls = (x.gather service state messages).calls ∧
      ((∃ failure, (x.gather service state messages).result = .error failure ∧
          (x.gather service state others).result = .error failure) ∨
        ∃ cs ds, (x.gather service state messages).result = .ok cs ∧
          (x.gather service state others).result = .ok ds ∧
          ds.map Contribution.withoutPosition = cs.map Contribution.withoutPosition) := by
  obtain ⟨result, calls⟩ := Gathering.mk.inj (gather_withoutPositions same x service state)
  refine ⟨calls, ?_⟩
  cases first : (x.gather service state messages).result with
  | error failure =>
    cases second : (x.gather service state others).result with
    | error failure' =>
      rw [first, second] at result
      cases result
      exact .inl ⟨failure, rfl, rfl⟩
    | ok ds =>
      rw [first, second] at result
      cases result
  | ok cs =>
    cases second : (x.gather service state others).result with
    | error failure =>
      rw [first, second] at result
      cases result
    | ok ds =>
      rw [first, second] at result
      exact .inr ⟨cs, ds, rfl, rfl, Except.ok.inj result⟩

/-- **Inputs that have no influence.** A run over messages that are used alike makes the same calls and
has the same result. If sensor reports are moved too, it still makes the same calls and fails with the
same failure, or notes the same but for the positions of these reports. -/
theorem run_unused_inputs (x : Extractor) (service : Service σ) (state : σ)
    {messages others : List Message} (same : List.Forall₂ Message.AlikeButPosition messages others)
    {run other : Run σ} (plain : x.RunsOver service state messages run)
    (changed : x.RunsOver service state others other) :
    other.calls = run.calls ∧
      (List.Forall₂ Message.Alike messages others → other.result = run.result) ∧
      ((∃ failure, run.result = .error failure ∧ other.result = .error failure) ∨
        ∃ notes otherNotes track otherTrack,
          (x.walk service 0 .empty state messages).result = .ok notes ∧
          (x.walk service 0 .empty state others).result = .ok otherNotes ∧
          run.result = .ok track ∧ other.result = .ok otherTrack ∧
          SameButPositions messages others notes otherNotes track otherTrack) := by
  by_cases nonempty : messages = []
  · subst nonempty
    cases same
    obtain ⟨result, calls⟩ := plain.ends.of_nil
    obtain ⟨result', calls'⟩ := changed.ends.of_nil
    rw [result, result', calls, calls']
    exact ⟨rfl, fun _ => rfl, .inl ⟨_, rfl, rfl⟩⟩
  have nonempty' : others ≠ [] := by
    rintro rfl
    cases same
    exact nonempty rfl
  obtain ⟨result, calls⟩ := plain.ends.eq_gather nonempty
  obtain ⟨result', calls'⟩ := changed.ends.eq_gather nonempty'
  obtain ⟨asked, ⟨failure, failed, failed'⟩ | ⟨cs, ds, gathered, gathered', given⟩⟩ :=
    gather_cases same x service state
  · rw [result, result', calls, calls', failed, failed']
    exact ⟨asked, fun _ => rfl, .inl ⟨failure, rfl, rfl⟩⟩
  · have gathers := gathers_of_gather gathered
    have gathers' := gathers_of_gather gathered'
    have law := gathers.sameButPositions gathers' same given
    rw [result, result', calls, calls', gathered, gathered']
    refine ⟨asked, fun alike => congrArg Except.ok (law.track_eq fun i => alikeAt_of_forall₂ alike i), ?_⟩
    exact .inr ⟨_, _, _, _, gathers.walk_eq, gathers'.walk_eq, rfl, rfl, law⟩

end Extractor

/-- The mixed messages under other tags, at other places where the slot has its own, with other dates where
none is asked for, other bytes where there is no slot, and the sensor report at a given latitude. -/
def alteredMessages (latitude : Option Float) : List Message :=
  [ { payload := [9, 10, 0, 0, 0, 1, 0, 0, 0, 2, 0, 0, 0, 7, 9, 0, 0, 0, 38, 19], latitude := some 5.0,
      longitude := some 6.0, created := "" },
    { payload := [1, 2, 3], latitude := none, longitude := some 1.0, created := "later" },
    { payload := 0xff :: List.replicate 20 9, latitude := none, longitude := none,
      created := "2023-11-14T22:13:40" },
    { payload := [5, 33, 5, 0, 0, 0], latitude, longitude := none, created := "" } ]

/-- The altered messages cannot be told from the mixed ones, and without the latitude of the sensor report
all rows but its own stay. -/
theorem run_unused_inputs_mixed :
    (sampleExtractor.runOn Service.ofList [samplePosition] (alteredMessages (some 11.0))).result =
        (mixedRun sampleExtractor).result ∧
      ∃ track other, (mixedRun sampleExtractor).result = .ok track ∧
        (sampleExtractor.runOn Service.ofList [samplePosition] (alteredMessages none)).result = .ok other ∧
        other.skipped = track.skipped ∧
        (other.rows.filter fun row => row.index != 3) = track.rows.filter fun row => row.index != 3 := by
  have plain : sampleExtractor.RunsOver Service.ofList [samplePosition] mixedMessages
      (mixedRun sampleExtractor) := .of_fetched Feed.ofList _ [(.ok mixedMessages, [])] rfl
  have altered : ∀ latitude, sampleExtractor.RunsOver Service.ofList [samplePosition]
      (alteredMessages latitude) _ := fun latitude =>
    sampleExtractor.runsOver_runOn Service.ofList [samplePosition] (alteredMessages latitude)
  have alike : List.Forall₂ Message.Alike mixedMessages (alteredMessages (some 11.0)) :=
    .cons (.fix rfl rfl rfl) <| .cons (.unsupported (by decide) rfl) <| .cons (.raw rfl rfl rfl rfl) <|
      .cons (.sensor rfl rfl rfl rfl) .nil
  have moved : List.Forall₂ Message.AlikeButPosition mixedMessages (alteredMessages none) :=
    .cons (.inl (.fix rfl rfl rfl)) <| .cons (.inl (.unsupported (by decide) rfl)) <|
      .cons (.inl (.raw rfl rfl rfl rfl)) <| .cons (.inr ⟨rfl, rfl⟩) .nil
  refine ⟨(Extractor.run_unused_inputs _ _ _ (alike.imp fun _ _ => .inl) plain (altered _)).2.1 alike, ?_⟩
  obtain ⟨-, -, ⟨failure, failed, -⟩ | ⟨_, _, track, other, -, -, done, made, law⟩⟩ :=
    Extractor.run_unused_inputs _ _ _ moved plain (altered none)
  · cases failed
  · refine ⟨track, other, done, made, law.skipped, law.rows (· != 3) ?_⟩
    intro i kept m n here there
    match i with
    | 0 =>
      cases here
      cases there
      exact .fix rfl rfl rfl
    | 1 =>
      cases here
      cases there
      exact .unsupported (by decide) rfl
    | 2 =>
      cases here
      cases there
      exact .raw rfl rfl rfl rfl
    | 3 => cases kept
    | i + 4 => cases here

end SatelliteTrack
