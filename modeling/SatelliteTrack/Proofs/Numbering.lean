import Mathlib.Data.List.Sort
import SatelliteTrack.Proofs.Suppliers

/-!
# No message is lost or counted twice

Points and skips share one numbering, that of the fetched list. The notes of a run number all messages in
turn (`Extractor.index_notes`), each note is a row or a skip, and neither the sort nor the leaving out of
incomplete rows changes a number. So the track of a run accounts for every fetched message
(`track_accounts_for_messages`), and its rows can stand in one order only (`eq_of_pairwise_before`).
-/

namespace SatelliteTrack

variable {σ τ : Type}

/-! ## The order of the rows -/

/-- The order of a track: by the date, rows without a date at the end, and rows of one date in the order
of their messages. -/
inductive TrackRow.Before (a b : TrackRow) : Prop
  | earlier {s t : Int} (first : a.point.date = some s) (second : b.point.date = some t) (lt : s < t)
  | undated {s : Int} (first : a.point.date = some s) (second : b.point.date = none)
  | tied (same : a.point.date = b.point.date) (lt : a.index < b.index)

namespace TrackRow

theorem Before.asymm {a b : TrackRow} (h : a.Before b) : ¬ b.Before a := by
  intro back
  rcases h with ⟨ha, hb, lt⟩ | ⟨ha, hb⟩ | ⟨same, lt⟩ <;>
    rcases back with ⟨hb', ha', lt'⟩ | ⟨hb', ha'⟩ | ⟨same', lt'⟩ <;> simp_all <;> omega

/-- The order that the sort goes by, with ties in the order of the messages. -/
theorem before_of_le {a b : TrackRow} (ordered : a.le b) (tied : b.le a → a.index < b.index) :
    a.Before b := by
  unfold TrackRow.le at ordered tied
  cases first : a.point.date with
  | none =>
    cases second : b.point.date with
    | none => exact .tied (first.trans second.symm) (tied (by simp [first, second, dateLe]))
    | some t => simp [first, second, dateLe] at ordered
  | some s =>
    cases second : b.point.date with
    | none => exact .undated first second
    | some t =>
      simp only [first, second, dateLe, decide_eq_true_eq] at ordered tied
      by_cases back : t ≤ s
      · have same : s = t := Int.le_antisymm ordered back
        exact .tied (by rw [first, second, same]) (tied back)
      · exact .earlier first second (Int.lt_of_not_ge back)

instance : Std.Asymm Before := ⟨fun _ _ => Before.asymm⟩

/-- Rows in the order of a track are determined by which rows they are. -/
theorem eq_of_pairwise_before {rows others : List TrackRow} (h : rows.Pairwise Before)
    (h' : others.Pairwise Before) (same : ∀ row, row ∈ others ↔ row ∈ rows) : others = rows :=
  h'.eq_of_mem_iff h same

end TrackRow

instance : Std.Asymm fun a b : Skip => a.message < b.message := ⟨fun _ _ => Nat.lt_asymm⟩

/-! ## One numbering -/

/-- The number of the message that a note is about. -/
def LogbookNote.index : LogbookNote → Nat
  | .enter index _ => index
  | .skip index _ => index

namespace LogbookNote

theorem index_of_row? {note : LogbookNote} {row : TrackRow} (h : note.row? = some row) :
    note.index = row.index := by
  cases note <;> cases h
  rfl

theorem index_of_skip? {note : LogbookNote} {skip : Skip} (h : note.skip? = some skip) :
    note.index = skip.message := by
  cases note <;> cases h
  rfl

end LogbookNote

namespace Extractor

/-- The notes number the messages in turn. -/
theorem index_notes (x : Extractor) (index : Nat) (previous : TrackPoint) (cs : List Contribution) :
    (x.notes index previous cs).map LogbookNote.index = List.range' index cs.length := by
  induction cs generalizing index previous with
  | nil => rfl
  | cons c cs ih =>
    rw [notes, List.map_cons, ih, List.length_cons, List.range'_succ]
    cases c <;> rfl

theorem pairwise_notes (x : Extractor) (cs : List Contribution) :
    (x.notes 0 .empty cs).Pairwise fun a b => a.index < b.index := by
  rw [← List.pairwise_map (f := LogbookNote.index) (R := fun i j => i < j), index_notes]
  exact List.pairwise_lt_range'

theorem pairwise_rows (x : Extractor) (cs : List Contribution) :
    (x.rows cs).Pairwise fun a b => a.index < b.index := by
  rw [rows, List.pairwise_filterMap]
  refine (x.pairwise_notes cs).imp fun {a b} lt row hrow row' hrow' => ?_
  rw [← LogbookNote.index_of_row? hrow, ← LogbookNote.index_of_row? hrow']
  exact lt

theorem pairwise_skipped (x : Extractor) (cs : List Contribution) :
    (x.track cs).skipped.Pairwise fun a b => a.message < b.message := by
  rw [track, List.pairwise_filterMap]
  refine (x.pairwise_notes cs).imp fun {a b} lt skip hskip skip' hskip' => ?_
  rw [← LogbookNote.index_of_skip? hskip, ← LogbookNote.index_of_skip? hskip']
  exact lt

/-- The rows of a track stand in its order. -/
theorem pairwise_track_rows (x : Extractor) (cs : List Contribution) :
    (x.track cs).rows.Pairwise TrackRow.Before := by
  have sorted := pairwise_mergeSort_stable TrackRow.le_trans TrackRow.le_total (x.pairwise_rows cs)
  exact (sorted.imp fun {a b} ⟨ordered, tied⟩ => TrackRow.before_of_le ordered tied).filter _

/-- No two rows of a track have the same number. -/
theorem nodup_track_rows (x : Extractor) (cs : List Contribution) :
    ((x.track cs).rows.map TrackRow.index).Nodup := by
  have before : ((x.rows cs).map TrackRow.index).Nodup := by
    rw [List.Nodup, List.pairwise_map]
    exact (x.pairwise_rows cs).imp Nat.ne_of_lt
  have sorted := (((x.rows cs).mergeSort_perm TrackRow.le).map TrackRow.index).nodup_iff.mpr before
  exact sorted.sublist (List.filter_sublist.map _)

/-- A number is that of a row when its message gave a point with a latitude. -/
theorem mem_index_track_rows (x : Extractor) (cs : List Contribution) (i : Nat) :
    i ∈ (x.track cs).rows.map TrackRow.index ↔
      ∃ own, cs[i]? = some (.point own) ∧ own.latitude.isSome := by
  simp only [List.mem_map, mem_track_rows, mem_rows]
  constructor
  · rintro ⟨row, ⟨⟨own, place, laid⟩, complete⟩, rfl⟩
    rw [laid] at complete
    exact ⟨own, place, complete⟩
  · rintro ⟨own, place, complete⟩
    exact ⟨⟨i, own.laidOver (x.carriedAfter (cs.take i))⟩, ⟨⟨own, place, rfl⟩, complete⟩, rfl⟩

end Extractor

/-! ## Every fetched message -/

/-- A message gives one position. -/
theorem Message.Locates.unique {m : Message} {answer : Answer} {a b c d : Option Float}
    (h : m.Locates answer a b) (h' : m.Locates answer c d) : a = c ∧ b = d := by
  cases h with
  | sideChannel size =>
    cases h' with
    | sideChannel => exact ⟨rfl, rfl⟩
    | fix size' => omega
    | answered size' => omega
  | fix size slot =>
    cases h' with
    | sideChannel size' => omega
    | fix _ slot' =>
      rw [slot] at slot'
      cases slot'
      exact ⟨rfl, rfl⟩
    | answered size' => omega
  | answered size =>
    cases h' with
    | sideChannel size' => omega
    | fix size' => omega
    | answered => exact ⟨rfl, rfl⟩

/-- A message gives a point when the size of its payload is that of a layout. -/
theorem Message.supported_of_contribution {m : Message} {answer : Answer} {own : TrackPoint}
    (given : m.contribution answer = .ok (.point own)) : m.payload.length ∈ [6, 20, 21] := by
  cases gives_of_contribution given with
  | sensor size => simp [size]
  | fix size => simp [size]
  | raw size => simp [size]

/-- A message that gives something gives no point exactly when its payload has another size. -/
theorem Message.contribution_nothing_iff {m : Message} {answer : Answer} {c : Contribution} {size : Nat}
    (given : m.contribution answer = .ok c) :
    c = .nothing size ↔ m.payload.length ∉ [6, 20, 21] ∧ m.payload.length = size := by
  constructor
  · rintro rfl
    cases gives_of_contribution given with
    | unsupported other => exact ⟨other, rfl⟩
  · rintro ⟨other, rfl⟩
    cases c with
    | nothing size =>
      cases gives_of_contribution given
      rfl
    | point own => exact absurd (supported_of_contribution given) other

/-- A track accounts for messages, given the answer to the request of each. -/
structure Track.Accounts (track : Track) (messages : List Message) (answer : Nat → Message → Answer) :
    Prop where
  /-- The skips stand in the order of their messages. -/
  ascending : track.skipped.Pairwise fun a b => a.message < b.message
  /-- They are about the messages whose payload has the size of no layout. -/
  mem_skipped : ∀ skip, skip ∈ track.skipped ↔ ∃ m, messages[skip.message]? = some m ∧
    m.payload.length ∉ [6, 20, 21] ∧ m.payload.length = skip.size
  /-- Every message was entered or skipped. -/
  total : track.collected + track.skipped.length = messages.length
  distinct : (track.rows.map TrackRow.index).Nodup
  inside : ∀ row ∈ track.rows, row.index < messages.length
  apart : ∀ row ∈ track.rows, ∀ skip ∈ track.skipped, row.index ≠ skip.message
  /-- There is a row for each message that has a layout and gives a latitude. -/
  mem_rows : ∀ i, i ∈ track.rows.map TrackRow.index ↔ ∃ m, messages[i]? = some m ∧
    m.payload.length ∈ [6, 20, 21] ∧
      ∃ latitude longitude, m.Locates (answer i m) (some latitude) longitude
  sorted : track.rows.Pairwise TrackRow.Before
  /-- No other list of these rows is in the order of a track. -/
  unique : ∀ rows : List TrackRow, rows.Pairwise TrackRow.Before →
    (∀ row, row ∈ rows ↔ row ∈ track.rows) → rows = track.rows

namespace Extractor

variable {x : Extractor} {service : Service σ} {state : σ} {messages : List Message}
  {cs : List Contribution}

theorem Gathers.mem_skipped_iff (h : x.Gathers service state messages cs)
    (skip : Skip) : skip ∈ (x.track cs).skipped ↔ ∃ m, messages[skip.message]? = some m ∧
      m.payload.length ∉ [6, 20, 21] ∧ m.payload.length = skip.size := by
  rw [x.mem_skipped]
  constructor
  · intro place
    obtain ⟨m, there, given⟩ := h.message_of_getElem? place
    exact ⟨m, there, (Message.contribution_nothing_iff given).mp rfl⟩
  · rintro ⟨m, place, other⟩
    obtain ⟨c, hc, given⟩ := h.getElem? place
    rw [hc, (Message.contribution_nothing_iff given).mpr other]

theorem Gathers.mem_rows_iff (h : x.Gathers service state messages cs) (i : Nat) :
    i ∈ (x.track cs).rows.map TrackRow.index ↔ ∃ m, messages[i]? = some m ∧
      m.payload.length ∈ [6, 20, 21] ∧ ∃ latitude longitude,
        m.Locates (x.answer service state (messages.take i) m) (some latitude) longitude := by
  rw [mem_index_track_rows]
  constructor
  · rintro ⟨own, place, complete⟩
    obtain ⟨m, there, given⟩ := h.message_of_getElem? place
    obtain ⟨latitude, set⟩ := Option.isSome_iff_exists.mp complete
    have located := Message.locates_of_contribution given
    rw [set] at located
    exact ⟨m, there, Message.supported_of_contribution given, latitude, _, located⟩
  · rintro ⟨m, place, supported, latitude, longitude, located⟩
    obtain ⟨c, hc, given⟩ := h.getElem? place
    cases c with
    | nothing size => exact absurd supported ((Message.contribution_nothing_iff given).mp rfl).1
    | point own =>
      obtain ⟨set, -⟩ := (Message.locates_of_contribution given).unique located
      exact ⟨own, hc, by rw [set, Option.isSome_some]⟩

/-- **No message is lost or counted twice**: the track of a run accounts for the fetched messages. -/
theorem track_accounts_for_messages (x : Extractor) (feed : Feed τ) (service : Service σ) (query : Query)
    (fed : τ) (state : σ) {track : Track}
    (h : (x.run feed service query fed state).1.result = .ok track) :
    ∃ messages, (feed query fed).1.1 = .ok messages ∧
      track.Accounts messages fun i m => x.answer service state (messages.take i) m := by
  obtain ⟨messages, cs, fetched, _, gathers, rfl, -⟩ := x.run_eq_ok feed service query fed state h
  have placed : ∀ row ∈ (x.track cs).rows, ∃ m, messages[row.index]? = some m ∧
      m.payload.length ∈ [6, 20, 21] := by
    intro row mem
    obtain ⟨m, place, supported, -⟩ := (gathers.mem_rows_iff row.index).mp (List.mem_map_of_mem mem)
    exact ⟨m, place, supported⟩
  refine ⟨messages, fetched, {
    ascending := x.pairwise_skipped cs
    mem_skipped := gathers.mem_skipped_iff
    total := ?_
    distinct := x.nodup_track_rows cs
    inside := ?_
    apart := ?_
    mem_rows := gathers.mem_rows_iff
    sorted := x.pairwise_track_rows cs
    unique := ?_ }⟩
  · rw [← gathers.length_eq, ← x.length_notes 0 .empty cs]
    exact LogbookNote.length_row?_skip? _
  · intro row mem
    obtain ⟨m, place, -⟩ := placed row mem
    exact (List.getElem?_eq_some_iff.mp place).1
  · intro row mem skip skipped same
    obtain ⟨m, place, supported⟩ := placed row mem
    obtain ⟨m', place', other, -⟩ := (gathers.mem_skipped_iff skip).mp skipped
    rw [same, place'] at place
    cases place
    exact other supported
  · intro rows sorted same
    exact TrackRow.eq_of_pairwise_before (x.pairwise_track_rows cs) sorted same

end Extractor

/-- All four mixed messages are accounted for: the second one is skipped and has no row, the sensor report
at the end has one. -/
theorem track_accounts_for_messages_mixed :
    ∃ track, (mixedRun sampleExtractor).result = .ok track ∧
      track.collected + track.skipped.length = 4 ∧ ⟨1, 3⟩ ∈ track.skipped ∧
      3 ∈ track.rows.map TrackRow.index ∧ 1 ∉ track.rows.map TrackRow.index := by
  obtain ⟨track, done⟩ :
      ∃ track, (mixedRun sampleExtractor).result = .ok track := ⟨_, rfl⟩
  obtain ⟨messages, fetched, law⟩ := Extractor.track_accounts_for_messages _ _ _ _ _ _ done
  cases fetched
  refine ⟨track, done, law.total, (law.mem_skipped _).mpr ⟨_, rfl, by decide, rfl⟩,
    (law.mem_rows 3).mpr ⟨_, rfl, by decide, 11.0, none, .sideChannel rfl⟩, fun mem => ?_⟩
  obtain ⟨m, place, supported, -⟩ := (law.mem_rows 1).mp mem
  cases place
  exact absurd supported (by decide)

end SatelliteTrack
