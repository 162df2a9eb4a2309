import SatelliteTrack.Proofs.Gathering
import SatelliteTrack.Proofs.Numbering

/-!
# Carrying changes telemetry only

With carrying switched on, a point takes over the telemetry that its own message lacks. The switch is
compared with itself here: `run_carrying` sets the run with carrying against the run without it, over
whatever is fetched. Both make the same calls and fail with the same failure, or both make a track, with
the same skips and with rows for the same messages. The positions of such rows are the same, and so are
the fields that the message itself holds.

It comes down to two facts. What is gathered does not depend on the switch (`gather_carryForward`),
since no carried point has a part in a call or an answer. And two points that are laid over different
points agree in all that their message gives (`Message.laidOver_agrees`), the position above all, so
they are complete together.
-/

namespace SatelliteTrack

variable {σ τ : Type}

/-- Two points of one message agree, but for telemetry that the message does not hold. -/
structure TrackPoint.AgreesFor (p : TrackPoint) (m : Message) (q : TrackPoint) : Prop where
  latitude : p.latitude = q.latitude
  longitude : p.longitude = q.longitude
  fix : m.payload.length = 20 → p = q
  sensor : m.payload.length = 6 →
    p.temperature = q.temperature ∧ p.battery = q.battery ∧ p.date = q.date

/-- What a message gives by itself hides what it is laid over. -/
theorem Message.laidOver_agrees {m : Message} {answer : Answer} {own : TrackPoint}
    (given : m.contribution answer = .ok (.point own)) (p q : TrackPoint) :
    (own.laidOver p).AgreesFor m (own.laidOver q) := by
  have fix : m.payload.length = 20 → own.laidOver p = own.laidOver q := by
    intro size
    cases gives_of_contribution given with
    | sensor size' => omega
    | fix => rfl
    | raw size' => omega
  have sensor : m.payload.length = 6 → (own.laidOver p).temperature = (own.laidOver q).temperature ∧
      (own.laidOver p).battery = (own.laidOver q).battery ∧
      (own.laidOver p).date = (own.laidOver q).date := by
    intro size
    cases gives_of_contribution given with
    | sensor => exact ⟨rfl, rfl, rfl⟩
    | fix size' => omega
    | raw size' => omega
  exact { latitude := rfl, longitude := rfl, fix, sensor }

attribute [ext] Track

/-- The tracks of one run with carrying and without it. -/
structure Track.SameButTelemetry (messages : List Message) (carrying plain : Track) : Prop where
  collected : carrying.collected = plain.collected
  skipped : carrying.skipped = plain.skipped
  indices : ∀ i, i ∈ carrying.rows.map TrackRow.index ↔ i ∈ plain.rows.map TrackRow.index
  points : ∀ row ∈ carrying.rows, ∀ other ∈ plain.rows, row.index = other.index →
    ∃ m, messages[row.index]? = some m ∧ row.point.AgreesFor m other.point
  /-- Where every slot is a fix there is nothing to be carried. -/
  fixes : (∀ m ∈ messages, m.payload.length ∈ [6, 20, 21] → m.payload.length = 20) → carrying = plain

namespace Extractor

/-! ## The same contributions -/

/-- What is gathered does not depend on what is carried. -/
theorem gather_carryForward (x : Extractor) (carryForward : Bool) (service : Service σ) (state : σ)
    (messages : List Message) :
    { x with carryForward }.gather service state messages = x.gather service state messages := by
  induction messages generalizing state with
  | nil => rfl
  | cons m ms ih =>
    show x.gatherOne service state m ++
      { x with carryForward }.gather service (service.after state (x.callsOf m)) ms = _
    rw [ih]
    rfl

section

variable {x y : Extractor} {service : Service σ} {state : σ} {messages : List Message}
  {cs : List Contribution}

theorem skipped_eq (x y : Extractor) (cs : List Contribution) :
    (x.track cs).skipped = (y.track cs).skipped := by
  refine (x.pairwise_skipped cs).eq_of_mem_iff (y.pairwise_skipped cs) ?_
  intro skip
  rw [mem_skipped, mem_skipped]

theorem collected_add_skipped (x : Extractor) (cs : List Contribution) :
    (x.track cs).collected + (x.track cs).skipped.length = cs.length := by
  rw [← x.length_notes 0 .empty cs]
  exact LogbookNote.length_row?_skip? _

theorem collected_eq (x y : Extractor) (cs : List Contribution) :
    (x.track cs).collected = (y.track cs).collected := by
  have count := x.collected_add_skipped cs
  rw [skipped_eq x y, ← y.collected_add_skipped cs] at count
  exact Nat.add_right_cancel count

/-- Rows about one message agree. -/
theorem Gathers.rows_agree (h : x.Gathers service state messages cs) {row other : TrackRow}
    (mem : row ∈ x.rows cs) (mem' : other ∈ y.rows cs) (same : row.index = other.index) :
    ∃ m, messages[row.index]? = some m ∧ m.payload.length ∈ [6, 20, 21] ∧
      row.point.AgreesFor m other.point := by
  obtain ⟨own, place, laid⟩ := (x.mem_rows cs row).mp mem
  obtain ⟨own', place', laid'⟩ := (y.mem_rows cs other).mp mem'
  -- one number has one contribution, whichever point was carried to it
  rw [← same, place] at place'
  cases place'
  obtain ⟨m, there, given⟩ := h.message_of_getElem? place
  refine ⟨m, there, Message.supported_of_contribution given, ?_⟩
  rw [laid, laid']
  exact Message.laidOver_agrees given _ _

/-- Where every slot is a fix, the rows do not depend on what is carried. -/
theorem Gathers.mem_track_rows_of_fixes (h : x.Gathers service state messages cs) (y : Extractor)
    (fixes : ∀ m ∈ messages, m.payload.length ∈ [6, 20, 21] → m.payload.length = 20)
    {row : TrackRow} (mem : row ∈ (x.track cs).rows) : row ∈ (y.track cs).rows := by
  have index := (x.mem_index_track_rows cs row.index).mp (List.mem_map_of_mem mem)
  obtain ⟨other, mem', same⟩ := List.mem_map.mp ((y.mem_index_track_rows cs row.index).mpr index)
  obtain ⟨m, there, supported, agrees⟩ := h.rows_agree ((x.mem_track_rows cs row).mp mem).1
    ((y.mem_track_rows cs other).mp mem').1 same.symm
  have point := agrees.fix (fixes m (List.mem_of_getElem? there) supported)
  have equal : row = other := congrArg₂ TrackRow.mk same.symm point
  rw [equal]
  exact mem'

/-- **One list of contributions** makes tracks that differ in carried telemetry only. -/
theorem Gathers.sameButTelemetry (h : x.Gathers service state messages cs)
    (h' : y.Gathers service state messages cs) :
    (x.track cs).SameButTelemetry messages (y.track cs) where
  collected := collected_eq x y cs
  skipped := skipped_eq x y cs
  indices i := by rw [mem_index_track_rows, mem_index_track_rows]
  points := by
    intro row mem other mem' same
    obtain ⟨m, there, -, agrees⟩ := h.rows_agree ((x.mem_track_rows cs row).mp mem).1
      ((y.mem_track_rows cs other).mp mem').1 same
    exact ⟨m, there, agrees⟩
  fixes := by
    intro fixes
    have rows : (x.track cs).rows = (y.track cs).rows :=
      TrackRow.eq_of_pairwise_before (y.pairwise_track_rows cs) (x.pairwise_track_rows cs) fun row =>
        ⟨h.mem_track_rows_of_fixes y fixes, h'.mem_track_rows_of_fixes x fixes⟩
    exact Track.ext rows (collected_eq x y cs) (skipped_eq x y cs)

end

/-! ## Both runs -/

/-- Two extractors that gather the same end alike. -/
theorem Ends.alike {x y : Extractor} {service : Service σ} {state : σ} {fetched : Fetched}
    {run other : Run σ} (same : ∀ messages, x.gather service state messages = y.gather service state messages)
    (h : x.Ends service state fetched run) (h' : y.Ends service state fetched other) :
    run.calls = other.calls ∧
      ((∃ failure, run.result = .error failure ∧ other.result = .error failure) ∨
        ∃ messages cs, fetched = .ok messages ∧ x.Gathers service state messages cs ∧
          y.Gathers service state messages cs ∧ run.result = .ok (x.track cs) ∧
          other.result = .ok (y.track cs)) := by
  cases fetched with
  | error error =>
    cases h with
    | unfetched result calls =>
      cases h' with
      | unfetched result' calls' => exact ⟨calls.trans calls'.symm, .inl ⟨_, result, result'⟩⟩
  | ok messages =>
    by_cases nonempty : messages = []
    · subst nonempty
      obtain ⟨result, calls⟩ := h.of_nil
      obtain ⟨result', calls'⟩ := h'.of_nil
      exact ⟨calls.trans calls'.symm, .inl ⟨_, result, result'⟩⟩
    · obtain ⟨result, calls⟩ := h.eq_gather nonempty
      obtain ⟨result', calls'⟩ := h'.eq_gather nonempty
      rw [same] at result calls
      refine ⟨calls.trans calls'.symm, ?_⟩
      cases given : (y.gather service state messages).result with
      | error failure =>
        rw [given] at result result'
        exact .inl ⟨failure, result, result'⟩
      | ok cs =>
        rw [given] at result result'
        have gathers := gathers_of_gather given
        rw [← same] at given
        exact .inr ⟨messages, cs, rfl, gathers_of_gather given, gathers, result, result'⟩

/-- **Carrying changes telemetry only.** Whatever is fetched, the run with carrying and the run without it
leave the service in the same state by the same calls, and fail alike or make tracks that agree. -/
theorem run_carrying (x : Extractor) (feed : Feed τ) (service : Service σ) (query : Query) (fed : τ)
    (state : σ) :
    let carrying := ({ x with carryForward := true }.run feed service query fed state).1
    let plain := ({ x with carryForward := false }.run feed service query fed state).1
    carrying.calls = plain.calls ∧ carrying.state = plain.state ∧
      ((∃ failure, carrying.result = .error failure ∧ plain.result = .error failure) ∨
        ∃ messages track other, (feed query fed).1.1 = .ok messages ∧ carrying.result = .ok track ∧
          plain.result = .ok other ∧ track.SameButTelemetry messages other) := by
  intro carrying plain
  obtain ⟨ends, moved, -⟩ := { x with carryForward := true }.run_ends feed service query fed state
  obtain ⟨ends', moved', -⟩ := { x with carryForward := false }.run_ends feed service query fed state
  have same : ∀ messages, { x with carryForward := true }.gather service state messages =
      { x with carryForward := false }.gather service state messages := by
    intro messages
    have on := x.gather_carryForward true service state messages
    have off := x.gather_carryForward false service state messages
    exact on.trans off.symm
  obtain ⟨calls, ways⟩ := ends.alike same ends'
  refine ⟨calls, ?_, ?_⟩
  · rw [moved, moved', calls]
  · rcases ways with failed | ⟨messages, cs, fetched, gathers, gathers', result, result'⟩
    · exact .inl failed
    · exact .inr ⟨messages, _, _, fetched, result, result', gathers.sameButTelemetry gathers'⟩

end Extractor

end SatelliteTrack
