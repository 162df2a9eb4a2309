import SatelliteTrack.Proofs.Closing
import SatelliteTrack.Proofs.CsvReading
import SatelliteTrack.Proofs.MomentOrder
import SatelliteTrack.Proofs.Suppliers

/-!
# The dates of a table ascend

The rows of a track stand in the order of their dates. A table shows the dates as texts, and `Csv.column`
takes a column out of such a table by its name, as a reader would. **The theorem**
(`Extractor.run_dateColumn`): in the table of any run the texts of the dates ascend from top to bottom, and
the cells without a date stand below all others.

It rests on what the dates of a run are. Each was taken from a payload, where a moment has 32 bits
(`Extractor.Gathers.date_of_row`), so it lies in the years in which the order of the texts is that of the
moments.
-/

namespace SatelliteTrack

variable {σ τ : Type}

/-! ## Columns -/

/-- The column of the dates holds the cells of the dates. -/
theorem Csv.column_locationDate (rows : List TrackRow) : column "locationDate" (text rows).toList =
    (rows.map fun row => row.point.date).map (cell Calendar.tableText) := by
  rw [column_text rows (i := 5) (by decide), List.map_map]
  rfl

/-- Dates in the order of a track are dates that do not descend, and then none. -/
theorem exists_dates_of_pairwise {dates : List (Option Int)} (h : dates.Pairwise DatesInOrder) :
    ∃ (moments : List Int) (unset : Nat), dates = moments.map some ++ List.replicate unset none ∧
      moments.Pairwise (· ≤ ·) := by
  induction h with
  | nil => exact ⟨[], 0, rfl, .nil⟩
  | @cons date dates before _ ih =>
    obtain ⟨moments, unset, rfl, ascending⟩ := ih
    cases date with
    | none =>
      cases moments with
      | nil => exact ⟨[], unset + 1, rfl, .nil⟩
      | cons s moments => cases before (some s) List.mem_cons_self
    | some s =>
      refine ⟨s :: moments, unset, rfl, .cons (fun t mem => ?_) ascending⟩
      cases before (some t) (List.mem_append_left _ (List.mem_map_of_mem mem)) with
      | ascending le => exact le

/-! ## The dates of a run -/

/-- A date that a message supplies has 32 bits. -/
theorem exists_int32_of_lastSupplied {window : List Message} {s : Int}
    (h : lastSupplied [6, 20] Slot.date? window = some s) : ∃ t : Int32, s = t.toInt := by
  obtain ⟨m, -, carried⟩ := Option.bind_eq_some_iff.mp h
  obtain ⟨slot, -, own⟩ := Option.bind_eq_some_iff.mp carried
  cases slot with
  | sensor r => exact ⟨r.time, (Option.some.inj own).symm⟩
  | fix s => exact ⟨s.time, (Option.some.inj own).symm⟩
  | raw s => cases own

namespace Extractor

variable {x : Extractor} {service : Service σ} {state : σ} {messages : List Message}
  {cs : List Contribution}

theorem Gathers.date_of_row (h : x.Gathers service state messages cs) {row : TrackRow}
    (mem : row ∈ x.rows cs) {s : Int} (date : row.point.date = some s) : ∃ t : Int32, s = t.toInt := by
  obtain ⟨m, -, supplied, -⟩ := h.row_supplied mem
  exact exists_int32_of_lastSupplied (supplied.date.symm.trans date)

theorem track_rows_inOrder (x : Extractor) (cs : List Contribution) :
    ((x.track cs).rows.map fun row => row.point.date).Pairwise DatesInOrder := by
  have sorted := (x.rows cs).pairwise_mergeSort TrackRow.le_trans TrackRow.le_total
  rw [List.pairwise_map]
  exact (sorted.imp fun {a b} le => (dateLe_iff _ _).mp le).filter _

/-- The dates of a track are moments of 32 bits that do not descend, and then none. -/
theorem Gathers.exists_dates (h : x.Gathers service state messages cs) :
    ∃ (moments : List Int) (unset : Nat),
      ((x.track cs).rows.map fun row => row.point.date) = moments.map some ++ List.replicate unset none ∧
        moments.Pairwise (· ≤ ·) ∧ ∀ s ∈ moments, ∃ t : Int32, s = t.toInt := by
  obtain ⟨moments, unset, dates, ascending⟩ := exists_dates_of_pairwise (x.track_rows_inOrder cs)
  refine ⟨moments, unset, dates, ascending, fun s mem => ?_⟩
  have among : some s ∈ (x.track cs).rows.map fun row => row.point.date := by
    rw [dates]
    exact List.mem_append_left _ (List.mem_map_of_mem mem)
  obtain ⟨row, inTrack, date⟩ := List.mem_map.mp among
  exact h.date_of_row ((x.mem_track_rows cs row).mp inTrack).1 date

end Extractor

/-- **A payload with a date always gives it**: whatever its bytes are, it is decoded, and its date is a
moment of 32 bits. -/
theorem Message.decode_dated (m : Message) (dated : m.payload.length = 6 ∨ m.payload.length = 20)
    (previous : TrackPoint) : ∃ (p : TrackPoint) (t : Int32), m.decode previous = .ok (.point p) ∧
      p.date = some t.toInt := by
  rcases dated with sensor | fix
  · obtain ⟨r, slot⟩ := Slot.decode_of_length_sensor sensor
    have decoded : m.decode previous = .ok ((Slot.sensor r).apply m previous) := by rw [decode, slot]; rfl
    exact ⟨_, r.time, decoded, rfl⟩
  · obtain ⟨s, slot⟩ := Slot.decode_of_length_fix fix
    have decoded : m.decode previous = .ok ((Slot.fix s).apply m previous) := by rw [decode, slot]; rfl
    exact ⟨_, s.time, decoded, rfl⟩

namespace Extractor

/-- **The dates of a table ascend.** In the table of a run the column of the dates holds texts that do not
descend and then empty cells. This is so because a payload with a date always gives one, of 32 bits; and of
two moments of 32 bits the earlier one has the text that comes first, each text being 25 characters long
and naming the date and the time of day, in the years from 1901 to 2038, that are so many seconds from the
start of 1970. -/
theorem run_dateColumn (x : Extractor) (feed : Feed τ) (service : Service σ) (query : Query) (fed : τ)
    (state : σ) {track : Track} (h : (x.run feed service query fed state).1.result = .ok track) :
    (∃ (dated : List String) (empties : Nat),
      Csv.column "locationDate" (Csv.text track.rows).toList = dated ++ List.replicate empties "" ∧
        "" ∉ dated ∧ dated.Pairwise (· ≤ ·)) ∧
    (∀ (m : Message) (previous : TrackPoint), m.payload.length = 6 ∨ m.payload.length = 20 →
      ∃ (p : TrackPoint) (t : Int32), m.decode previous = .ok (.point p) ∧ p.date = some t.toInt) ∧
    ∀ s t : Int32,
      (Calendar.tableText s.toInt < Calendar.tableText t.toInt ↔ s.toInt < t.toInt) ∧
      (Calendar.tableText s.toInt).length = 25 ∧
      ∃ (date : Calendar.Date) (time : Calendar.Time),
        Calendar.tableText s.toInt = date.text ++ " " ++ time.text ++ "+00:00" ∧
        date.IsValid ∧ time.IsValid ∧ (1901 ≤ date.year ∧ date.year ≤ 2038) ∧
        date.number * 86400 + time.toSecond = s.toInt := by
  refine ⟨?_, fun m previous dated => m.decode_dated dated previous, fun s t => ⟨?_, ?_, ?_⟩⟩
  · obtain ⟨messages, cs, -, -, gathers, rfl, -⟩ := x.run_eq_ok feed service query fed state h
    obtain ⟨moments, unset, dates, ascending, bits⟩ := gathers.exists_dates
    refine ⟨moments.map Calendar.tableText, unset, ?_, fun mem => ?_, ?_⟩
    · rw [Csv.column_locationDate, dates, List.map_append, List.map_map, List.map_replicate]
      rfl
    · obtain ⟨s, -, blank⟩ := List.mem_map.mp mem
      have filled := (Csv.clean_tableText s).nonempty
      rw [blank] at filled
      exact filled rfl
    · refine List.pairwise_map.mpr (ascending.imp_of_mem fun {s t} first second le => ?_)
      obtain ⟨s, rfl⟩ := bits s first
      obtain ⟨t, rfl⟩ := bits t second
      exact (Calendar.tableText_le_iff (Calendar.fourDigits_of_int32 s)
        (Calendar.fourDigits_of_int32 t)).mpr le
  · exact Calendar.tableText_lt_iff (Calendar.fourDigits_of_int32 s) (Calendar.fourDigits_of_int32 t)
  · rw [← String.length_toList, Calendar.length_tableText (Calendar.fourDigits_of_int32 s)]
  · obtain ⟨date, time, seconds⟩ := Calendar.ofEpoch_valid s.toInt
    exact ⟨_, _, rfl, date, time, Calendar.year_of_int32 s, seconds⟩

end Extractor

/-! ## A table with a row that has no date -/

/-- Raw measurements, and then two sensor reports, the later one with the earlier moment. -/
def undatedFirst : List Message :=
  [ { payload := 4 :: List.replicate 20 9, latitude := none, longitude := none, created := "" },
    { payload := [19, 38, 5, 0, 0, 0], latitude := some 3.0, longitude := none, created := "" },
    { payload := [19, 38, 255, 255, 255, 255], latitude := some 4.0, longitude := none, created := "" } ]

/-- A run over them, the one request answered with a position. -/
def undatedRun : Run (List Answer) :=
  (sampleExtractor.run Feed.ofList Service.ofList ⟨"guid", "2023-11-14"⟩ [(.ok undatedFirst, [])]
    [.ok (.object [("Lat", .number (.natural 46)), ("Lon", .number (.negative 73))])]).1

/-- The moment before 1970 comes first, and the row without a date last. -/
theorem run_dateColumn_undated : ∃ track, undatedRun.result = .ok track ∧
    (∃ (dated : List String) (empties : Nat),
      Csv.column "locationDate" (Csv.text track.rows).toList = dated ++ List.replicate empties "" ∧
        "" ∉ dated ∧ dated.Pairwise (· ≤ ·)) ∧
    Csv.column "locationDate" (Csv.text track.rows).toList =
      ["1969-12-31 23:59:59+00:00", "1970-01-01 00:00:05+00:00", ""] := by
  have done : undatedRun.result = .ok {
      rows := (List.mergeSort
        [ { index := 0, point := { latitude := some (Json.Number.natural 46).toFloat
                                   longitude := some (Json.Number.negative 73).toFloat } },
          { index := 1, point := { latitude := some 3.0, battery := some (volts 38)
                                   temperature := some 19, date := some 5 } },
          { index := 2, point := { latitude := some 4.0, battery := some (volts 38)
                                   temperature := some 19, date := some (-1) } } ]
        TrackRow.le).filter fun row => row.point.isComplete
      collected := 3
      skipped := [] } := rfl
  refine ⟨_, done, (Extractor.run_dateColumn _ _ _ _ _ _ done).1, ?_⟩
  have texts : [some (-1), some 5, none].map (cell Calendar.tableText) =
      ["1969-12-31 23:59:59+00:00", "1970-01-01 00:00:05+00:00", ""] := by decide
  rw [Csv.column_locationDate, ← texts]
  simp [List.mergeSort, List.MergeSort.Internal.splitInTwo, TrackRow.le, dateLe, TrackPoint.isComplete]

end SatelliteTrack
