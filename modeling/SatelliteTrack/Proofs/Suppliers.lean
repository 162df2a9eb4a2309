import SatelliteTrack.Proofs.Course

/-!
# Where the fields of a row come from

With carrying switched on, a row takes each field of its telemetry from the last message up to its own
that carries the field: temperature, battery and date from the last sensor report or fix, satellites and
speed from the last fix. With carrying switched off its own message is the only one that counts. The
position is never carried: it comes from the message of the row alone, or from the answer to its request.

`lastSupplied` looks for the last message by the sizes of the payloads, and knows nothing of points that
are carried on; `Extractor.foldl_carried_suppliedBy` is the invariant that joins the two, and
`rows_supplied_by_last_messages` the law of the rows.
-/

namespace SatelliteTrack

variable {σ τ : Type}

/-! ## What a slot carries -/

namespace Slot

def temperature? : Slot → Option UInt8
  | .sensor r => some r.temperature
  | .fix s => some s.temperature
  | .raw _ => none

def battery? : Slot → Option Float
  | .sensor r => some (volts r.battery)
  | .fix s => some (volts s.battery)
  | .raw _ => none

def date? : Slot → Option Int
  | .sensor r => some r.time.toInt
  | .fix s => some s.time.toInt
  | .raw _ => none

def satellites? : Slot → Option UInt8
  | .fix s => some s.satellites
  | _ => none

def speed? : Slot → Option Int32
  | .fix s => some s.speed
  | _ => none

end Slot

/-- A field as it is decoded from the last message of one of these sizes, unset when there is none. -/
def lastSupplied {α : Type} (sizes : List Nat) (field : Slot → Option α) (window : List Message) :
    Option α :=
  ((window.filter fun m => m.payload.length ∈ sizes).getLast?).bind fun m =>
    (Slot.decode m.payload).toOption.bind field

/-- The telemetry of a point is that of the last messages of a window that carry it. -/
structure TrackPoint.SuppliedBy (p : TrackPoint) (window : List Message) : Prop where
  temperature : p.temperature = lastSupplied [6, 20] Slot.temperature? window
  battery : p.battery = lastSupplied [6, 20] Slot.battery? window
  date : p.date = lastSupplied [6, 20] Slot.date? window
  satellites : p.satellites = lastSupplied [20] Slot.satellites? window
  speed : p.speed = lastSupplied [20] Slot.speed? window

/-- The position that a message gives: that of the side channel for a sensor report, each axis as it is,
that of the slot for a fix, and for raw measurements that of the answer. -/
inductive Message.Locates (m : Message) (answer : Answer) : Option Float → Option Float → Prop
  | sideChannel (size : m.payload.length = 6) : Locates m answer m.latitude m.longitude
  | fix (size : m.payload.length = 20) {s : FixSlot} (slot : Slot.decode m.payload = .ok (.fix s)) :
      Locates m answer (some (degrees s.latitude)) (some (degrees s.longitude))
  | answered (size : m.payload.length = 21) :
      Locates m answer (answer.position?.map Point.latitude) (answer.position?.map Point.longitude)

/-- The messages that may supply the row of message `i`. -/
def Extractor.window (x : Extractor) (messages : List Message) (i : Nat) : List Message :=
  if x.carryForward then messages.take (i + 1) else (messages.drop i).take 1

/-! ## One message more -/

theorem lastSupplied_concat {α : Type} (sizes : List Nat) (field : Slot → Option α)
    (window : List Message) (m : Message) :
    lastSupplied sizes field (window ++ [m]) =
      if m.payload.length ∈ sizes then (Slot.decode m.payload).toOption.bind field
      else lastSupplied sizes field window := by
  unfold lastSupplied
  rw [List.filter_append]
  by_cases h : m.payload.length ∈ sizes
  · rw [if_pos h, List.filter_cons_of_pos (by simpa using h), List.filter_nil, List.getLast?_concat]
    rfl
  · rw [if_neg h, List.filter_cons_of_neg (by simpa using h), List.filter_nil, List.append_nil]

/-- Messages of other sizes do not count. -/
theorem lastSupplied_filter {α : Type} {sizes : List Nat} (field : Slot → Option α)
    {keep : Message → Bool} (kept : ∀ m : Message, m.payload.length ∈ sizes → keep m)
    (window : List Message) :
    lastSupplied sizes field (window.filter keep) = lastSupplied sizes field window := by
  unfold lastSupplied
  rw [List.filter_filter]
  congr 3
  funext m
  by_cases h : m.payload.length ∈ sizes
  · simp [h, kept m h]
  · simp [h]

namespace TrackPoint.SuppliedBy

theorem nil : TrackPoint.empty.SuppliedBy [] := ⟨rfl, rfl, rfl, rfl, rfl⟩

/-- The point of a message over one that a window supplied is supplied by the window and the message. -/
theorem concat {p : TrackPoint} {window : List Message} (h : p.SuppliedBy window) {m : Message}
    {answer : Answer} {own : TrackPoint} (given : m.contribution answer = .ok (.point own)) :
    (own.laidOver p).SuppliedBy (window ++ [m]) := by
  cases Message.gives_of_contribution given with
  | sensor size slot =>
    constructor <;> rw [lastSupplied_concat, size, slot]
    · rfl
    · rfl
    · rfl
    · exact h.satellites
    · exact h.speed
  | fix size slot => constructor <;> rw [lastSupplied_concat, size, slot] <;> rfl
  | raw size =>
    constructor <;> rw [lastSupplied_concat, size]
    · exact h.temperature
    · exact h.battery
    · exact h.date
    · exact h.satellites
    · exact h.speed

/-- A message without a slot supplies nothing and takes nothing away. -/
theorem concat_nothing {p : TrackPoint} {window : List Message} (h : p.SuppliedBy window) {m : Message}
    {answer : Answer} {size : Nat} (given : m.contribution answer = .ok (.nothing size)) :
    p.SuppliedBy (window ++ [m]) := by
  cases Message.gives_of_contribution given with
  | unsupported other =>
    simp only [List.mem_cons, not_or] at other
    constructor <;> rw [lastSupplied_concat, if_neg (by simp [other])]
    · exact h.temperature
    · exact h.battery
    · exact h.date
    · exact h.satellites
    · exact h.speed

/-- Messages without a slot may be left out. -/
theorem filter_isSupported {p : TrackPoint} {window : List Message} (h : p.SuppliedBy window) :
    p.SuppliedBy (window.filter Message.isSupported) := by
  have both : ∀ m : Message, m.payload.length ∈ [6, 20] → m.isSupported := by
    intro m size
    simp only [List.mem_cons, List.not_mem_nil, or_false] at size
    rcases size with size | size <;> simp [Message.isSupported, size]
  have fix : ∀ m : Message, m.payload.length ∈ [20] → m.isSupported := fun m size =>
    both m (List.mem_cons_of_mem _ size)
  constructor <;> rw [lastSupplied_filter _ (by assumption)]
  · exact h.temperature
  · exact h.battery
  · exact h.date
  · exact h.satellites
  · exact h.speed

end TrackPoint.SuppliedBy

/-- The position of a point that a message gives by itself is the one that the message gives. -/
theorem Message.locates_of_contribution {m : Message} {answer : Answer} {own : TrackPoint}
    (given : m.contribution answer = .ok (.point own)) : m.Locates answer own.latitude own.longitude := by
  cases gives_of_contribution given with
  | sensor size => exact .sideChannel size
  | fix size slot => exact .fix size slot
  | raw size => exact .answered size

/-! ## A whole run -/

namespace Extractor

variable {x : Extractor} {service : Service σ} {state : σ} {messages : List Message}
  {cs : List Contribution}

/-- **The invariant of the carried point**: what is carried on after some messages is supplied by them
and by what supplied the point before them. -/
theorem foldl_carried_suppliedBy (h : x.Gathers service state messages cs)
    (carry : x.carryForward = true) {previous : TrackPoint} {window : List Message}
    (supplied : previous.SuppliedBy window) :
    (cs.foldl x.carried previous).SuppliedBy (window ++ messages) := by
  induction h generalizing previous window with
  | nil => simpa using supplied
  | @cons state m c ms cs head _ ih =>
    rw [List.foldl_cons, List.append_cons]
    apply ih
    cases c with
    | nothing size => exact supplied.concat_nothing head
    | point own =>
      rw [carried, if_pos carry]
      exact supplied.concat head

/-- Without carrying every message starts from the same point. -/
theorem foldl_carried_of_off {x : Extractor} (carry : x.carryForward = false) (cs : List Contribution)
    (previous : TrackPoint) : cs.foldl x.carried previous = previous := by
  induction cs with
  | nil => rfl
  | cons c cs ih =>
    have same : x.carried previous c = previous := by cases c <;> simp [carried, carry]
    rw [List.foldl_cons, same, ih]

/-- A row of any run, complete or not, has its telemetry from its window and its position from its own
message. -/
theorem Gathers.row_supplied (h : x.Gathers service state messages cs) {row : TrackRow}
    (mem : row ∈ x.rows cs) : ∃ m, messages[row.index]? = some m ∧
      row.point.SuppliedBy (x.window messages row.index) ∧
      m.Locates (x.answer service state (messages.take row.index) m) row.point.latitude
        row.point.longitude := by
  obtain ⟨own, place, laid⟩ := (x.mem_rows cs row).mp mem
  obtain ⟨m, there, given⟩ := h.message_of_getElem? place
  obtain ⟨inside, is⟩ := List.getElem?_eq_some_iff.mp there
  refine ⟨m, there, ?_, ?_⟩
  · rw [laid]
    cases carry : x.carryForward with
    | true =>
      have carried := foldl_carried_suppliedBy (h.take row.index) carry TrackPoint.SuppliedBy.nil
      rw [window, carry, if_pos rfl, List.take_succ_eq_append_getElem inside, is]
      exact carried.concat given
    | false =>
      have alone := TrackPoint.SuppliedBy.nil.concat given
      rw [window, carry, if_neg Bool.false_ne_true, carriedAfter, foldl_carried_of_off carry,
        List.drop_eq_getElem_cons inside, is]
      exact alone
  · have located := Message.locates_of_contribution given
    rw [laid]
    exact located

/-- **The last supplier law.** In the track of a run every row has its telemetry from the last messages
up to its own that carry it, whether messages without a slot are left out or not, and its position from
its own message or the answer to the request of that message. -/
theorem rows_supplied_by_last_messages (x : Extractor) (feed : Feed τ) (service : Service σ)
    (query : Query) (fed : τ) (state : σ) {track : Track}
    (h : (x.run feed service query fed state).1.result = .ok track) :
    ∃ messages, (feed query fed).1.1 = .ok messages ∧
      ∀ row ∈ track.rows, ∃ m, messages[row.index]? = some m ∧
        row.point.SuppliedBy (x.window messages row.index) ∧
        row.point.SuppliedBy ((x.window messages row.index).filter Message.isSupported) ∧
        m.Locates (x.answer service state (messages.take row.index) m) row.point.latitude
          row.point.longitude ∧
        (m.isRaw = true →
          (service.answers state (x.run feed service query fed state).1.calls)[
              (messages.take row.index).countP Message.isRaw]? =
            some (x.answer service state (messages.take row.index) m)) := by
  obtain ⟨messages, cs, fetched, _, gathers, rfl, calls⟩ := x.run_eq_ok feed service query fed state h
  refine ⟨messages, fetched, fun row mem => ?_⟩
  obtain ⟨m, place, supplied, located⟩ := gathers.row_supplied ((x.mem_track_rows cs row).mp mem).1
  refine ⟨m, place, supplied, supplied.filter_isSupported, located, fun raw => ?_⟩
  rw [calls]
  exact (gathers.answer_of_raw place raw).2

end Extractor

/-! ## A run over all kinds of messages -/

/-- A fix, a payload without a slot, raw measurements and a sensor report. -/
def mixedMessages : List Message :=
  [ { payload := [1, 10, 0, 0, 0, 1, 0, 0, 0, 2, 0, 0, 0, 7, 9, 0, 0, 0, 38, 19], latitude := none,
      longitude := none, created := "2023-11-14T22:13:20" },
    { payload := [0, 0, 0], latitude := some 1.0, longitude := none, created := "" },
    { payload := 4 :: List.replicate 20 9, latitude := some 3.0, longitude := some 4.0,
      created := "2023-11-14T22:13:40" },
    { payload := [5, 33, 5, 0, 0, 0], latitude := some 11.0, longitude := none,
      created := "2023-11-14T22:14:00" } ]

/-- An extractor that carries fields on. -/
def sampleExtractor : Extractor := { topics := .ofDevice "device", timeout := .ofSeconds 5 }

/-- A run over the mixed messages, the one request answered with a position. -/
def mixedRun (x : Extractor) : Run (List Answer) :=
  (x.run Feed.ofList Service.ofList ⟨"guid", "2023-11-14"⟩ [(.ok mixedMessages, [])]
    [.ok (.object [("Lat", .number (.natural 46)), ("Lon", .number (.negative 73))])]).1

/-- The sensor report at the end has its own temperature, the satellites of the fix three messages
before, and half a position, since its side channel has no more and nothing is carried. -/
theorem rows_supplied_by_last_messages_mixed :
    ∃ track, (mixedRun sampleExtractor).result = .ok track ∧
      ∃ row ∈ track.rows, row.index = 3 ∧ row.point.temperature = some 5 ∧
        row.point.satellites = some 7 ∧ row.point.longitude = none := by
  obtain ⟨track, done, row, mem, index⟩ :
      ∃ track, (mixedRun sampleExtractor).result = .ok track ∧
        ∃ row ∈ track.rows, row.index = 3 := by
    refine ⟨_, rfl, ?_⟩
    simp only [List.mem_filter, List.mem_mergeSort]
    exact ⟨_, ⟨List.mem_of_getElem? (i := 2) rfl, rfl⟩, rfl⟩
  obtain ⟨messages, fetched, law⟩ := Extractor.rows_supplied_by_last_messages _ _ _ _ _ _ done
  cases fetched
  obtain ⟨m, place, supplied, -, located, -⟩ := law row mem
  rw [index] at place supplied located
  cases place
  refine ⟨track, done, row, mem, index, supplied.temperature, supplied.satellites, ?_⟩
  generalize row.point.latitude = latitude, row.point.longitude = longitude at located
  cases located with
  | sideChannel => rfl
  | fix size => cases size
  | answered size => cases size

end SatelliteTrack
