import SatelliteTrack.Proofs.Numbering

/-!
# The calls of runs

Answers are matched to messages by nothing but their order. Within one run the calls are those of the
messages with raw measurements, in the order of the messages, and each answer goes to the message whose
call it answers (`Extractor.Requests`). Runs one after another share the services and nothing else: each
has its own section of all calls and of all answers, and asks the message service once
(`runAll_requests`).
-/

namespace SatelliteTrack

variable {σ τ : Type}

/-! ## Sections of calls -/

/-- The answers to the calls in the middle are given in the state that the calls before them left. -/
theorem Service.answers_section (service : Service σ) (state : σ) (earlier calls later : List Call) :
    ((service.answers state (earlier ++ calls ++ later)).drop earlier.length).take calls.length =
      service.answers (service.after state earlier) calls := by
  have count := service.length_answers state earlier
  have count' := service.length_answers (service.after state earlier) calls
  rw [List.append_assoc, answers_append, answers_append, ← count, List.drop_left, ← count',
    List.take_left]

/-- The state of a message service after queries in turn. -/
def Feed.after (feed : Feed τ) (fed : τ) (queries : List Query) : τ :=
  queries.foldl (fun fed query => (feed query fed).2) fed

namespace Extractor

/-! ## The calls of one run -/

/-- The call for a message and an answer to it: among the calls of a run, and among the answers to them,
both have the number of messages with raw measurements that stand before the message. -/
structure Answered (x : Extractor) (calls : List Call) (answers : List Answer) (before : List Message)
    (m : Message) (answer : Answer) : Prop where
  called : calls[before.countP Message.isRaw]? = some (x.call m)
  answered : answers[before.countP Message.isRaw]? = some answer

/-- Each message with raw measurements was asked for, and the answer to its own call was taken. -/
def Passed (x : Extractor) (calls : List Call) (answers : List Answer) (messages : List Message) : Prop :=
  ∀ i m, messages[i]? = some m → m.isRaw = true → ∃ answer,
    x.Answered calls answers (messages.take i) m answer ∧ m.fits = true ∧ answer.refusal? = none

/-- What a run over what was fetched makes of the answers to its calls. -/
inductive Requests (x : Extractor) (answers : List Answer) : Fetched → Run σ → Prop
  | unfetched {error : TransportError} {run : Run σ} (result : run.result = .error (.transport error))
      (calls : run.calls = []) : Requests x answers (.error error) run
  | empty {run : Run σ} (result : run.result = .error .emptyResult) (calls : run.calls = []) :
      Requests x answers (.ok []) run
  /-- One call for each message with raw measurements. A row is supplied by messages of this run alone,
  and its position by its own message or the answer to the call for it. -/
  | finished {messages : List Message} {track : Track} {run : Run σ} (result : run.result = .ok track)
      (calls : run.calls = (messages.filter Message.isRaw).map x.call)
      (passed : x.Passed run.calls answers messages)
      (rows : ∀ row ∈ track.rows, ∃ m answer, messages[row.index]? = some m ∧
        (m.isRaw = true → x.Answered run.calls answers (messages.take row.index) m answer) ∧
        m.Locates answer row.point.latitude row.point.longitude ∧
        row.point.SuppliedBy (x.window messages row.index))
      (located : ∀ i m answer, messages[i]? = some m → m.isRaw = true →
        x.Answered run.calls answers (messages.take i) m answer →
        (i ∈ track.rows.map TrackRow.index ↔ answer.position?.isSome)) :
      Requests x answers (.ok messages) run
  /-- The envelope of a message is refused: there is no call for it, and none after it. -/
  | oversized {before rest : List Message} {m : Message} {run : Run σ} (raw : m.isRaw = true)
      (big : m.fits = false)
      (result : run.result = .error (.payloadTooLarge m.envelopeText.utf8ByteSize messageLimit))
      (calls : run.calls = (before.filter Message.isRaw).map x.call)
      (passed : x.Passed run.calls answers before) :
      Requests x answers (.ok (before ++ m :: rest)) run
  /-- The answer to the last call is refused: there is no call after it. -/
  | refused {before rest : List Message} {m : Message} {answer : Answer} {error : TransportError}
      {run : Run σ} (raw : m.isRaw = true) (fits : m.fits = true)
      (own : x.Answered run.calls answers before m answer) (why : answer.refusal? = some error)
      (result : run.result = .error (.transport error))
      (calls : run.calls = ((before ++ [m]).filter Message.isRaw).map x.call)
      (passed : x.Passed run.calls answers before) :
      Requests x answers (.ok (before ++ m :: rest)) run

theorem Answered.unique {x : Extractor} {calls : List Call} {answers : List Answer}
    {before : List Message} {m : Message} {first second : Answer}
    (h : x.Answered calls answers before m first) (h' : x.Answered calls answers before m second) :
    first = second := Option.some.inj (h.answered.symm.trans h'.answered)

variable {x : Extractor} {service : Service σ} {state : σ} {messages : List Message}
  {cs : List Contribution}

/-- A message with raw measurements among those that gave something is answered, whatever is called
later. -/
theorem Gathers.answered (h : x.Gathers service state messages cs) (later : List Call) {i : Nat}
    {m : Message} (place : messages[i]? = some m) (raw : m.isRaw = true) :
    x.Answered (messages.flatMap x.callsOf ++ later)
      (service.answers state (messages.flatMap x.callsOf ++ later)) (messages.take i) m
      (x.answer service state (messages.take i) m) := by
  obtain ⟨called, answered⟩ := h.answer_of_raw place raw
  constructor
  · rw [List.getElem?_append_left (List.getElem?_eq_some_iff.mp called).1, called]
  · rw [Service.answers_append, List.getElem?_append_left (List.getElem?_eq_some_iff.mp answered).1,
      answered]

theorem Gathers.passed (h : x.Gathers service state messages cs) (later : List Call) :
    x.Passed (messages.flatMap x.callsOf ++ later)
      (service.answers state (messages.flatMap x.callsOf ++ later)) messages := by
  intro i m place raw
  obtain ⟨c, -, given⟩ := h.getElem? place
  exact ⟨_, h.answered later place raw,
    (m.failure?_eq_none_iff _).mp (Message.failure?_of_contribution given raw)⟩

/-- The message that ends a run is answered behind those before it. -/
theorem Gathers.answered_last {x : Extractor} {service : Service σ} {state : σ}
    {before : List Message} {cs : List Contribution} (h : x.Gathers service state before cs)
    (m : Message) : x.Answered (before.flatMap x.callsOf ++ [x.call m])
      (service.answers state (before.flatMap x.callsOf ++ [x.call m])) before m
      (x.answer service state before m) := by
  have called : (before.flatMap x.callsOf ++ [x.call m])[before.countP Message.isRaw]? =
      some (x.call m) := by
    rw [← h.length_flatMap_callsOf, List.getElem?_concat_length]
  refine ⟨called, ?_⟩
  rw [Service.getElem?_answers, called, ← h.length_flatMap_callsOf, List.take_left]
  rfl

/-- In a finished run a message with raw measurements has a row when the answer to it has a position. -/
theorem Gathers.mem_rows_of_raw (h : x.Gathers service state messages cs) {i : Nat}
    {m : Message} (place : messages[i]? = some m) (raw : m.isRaw = true) :
    i ∈ (x.track cs).rows.map TrackRow.index ↔
      (x.answer service state (messages.take i) m).position?.isSome := by
  have size : m.payload.length = 21 := by simpa [Message.isRaw] using raw
  rw [h.mem_rows_iff]
  constructor
  · rintro ⟨m', place', -, latitude, longitude, located⟩
    rw [place] at place'
    cases place'
    obtain ⟨set, -⟩ := located.unique (.answered size)
    rw [← Option.isSome_map, ← set, Option.isSome_some]
  · intro found
    obtain ⟨p, position⟩ := Option.isSome_iff_exists.mp found
    refine ⟨m, place, by simp [size], p.latitude, some p.longitude, ?_⟩
    have located : m.Locates (x.answer service state (messages.take i) m) _ _ := .answered size
    rw [position] at located
    exact located

/-- **A run** makes its calls in the order of the messages and takes each answer for the message that it
was called for. -/
theorem Ends.requests {x : Extractor} {service : Service σ} {state : σ} {fetched : Fetched} {run : Run σ}
    (h : x.Ends service state fetched run) :
    x.Requests (service.answers state run.calls) fetched run := by
  cases h with
  | unfetched result calls => exact .unfetched result calls
  | empty result calls => exact .empty result calls
  | @finished messages cs _ _ gathers result calls =>
    have asked := calls.trans (List.append_nil _).symm
    refine .finished result (calls.trans gathers.flatMap_callsOf) ?_ (fun row mem => ?_) ?_
    · rw [asked]
      exact gathers.passed []
    · obtain ⟨m, place, supplied, located⟩ :=
        gathers.row_supplied ((x.mem_track_rows cs row).mp mem).1
      refine ⟨m, _, place, fun raw => ?_, located, supplied⟩
      rw [asked]
      exact gathers.answered [] place raw
    · intro i m answer place raw own
      rw [asked] at own
      rw [own.unique (gathers.answered [] place raw)]
      exact gathers.mem_rows_of_raw place raw
  | @stopped before rest m cs failure _ gathers failed result calls =>
    obtain ⟨raw, why⟩ := (m.contribution_eq_error_iff _ failure).mp failed
    rw [List.flatMap_append, List.flatMap_singleton] at calls
    rcases (m.failure?_eq_some_iff _ failure).mp why with ⟨big, rfl⟩ | ⟨fits, error, refused, rfl⟩
    · have none : x.callsOf m = [] := by simp [callsOf, big]
      refine .oversized raw big result ?_ ?_
      · rw [calls, none, List.append_nil, gathers.flatMap_callsOf]
      · rw [calls]
        exact gathers.passed _
    · have one : x.callsOf m = [x.call m] := by simp [callsOf, raw, fits]
      refine .refused raw fits ?_ refused result ?_ ?_
      · rw [calls, one]
        exact gathers.answered_last m
      · rw [calls, one, gathers.flatMap_callsOf, List.filter_append, List.map_append,
          List.filter_cons_of_pos raw, List.filter_nil, List.map_singleton]
      · rw [calls]
        exact gathers.passed _

/-! ## Runs one after another -/

theorem length_runAll (x : Extractor) (feed : Feed τ) (service : Service σ) (queries : List Query)
    (fed : τ) (state : σ) : (x.runAll feed service queries fed state).length = queries.length := by
  induction queries generalizing fed state with
  | nil => rfl
  | cons query rest ih => rw [runAll, List.length_cons, List.length_cons, ih]

/-- Each run starts where the earlier queries left the message service and the earlier calls the position
service, whatever became of the earlier runs. -/
theorem getElem?_runAll (x : Extractor) (feed : Feed τ) (service : Service σ) (queries : List Query)
    (fed : τ) (state : σ) {n : Nat} {query : Query} (place : queries[n]? = some query) :
    let runs := x.runAll feed service queries fed state
    ∃ run, runs[n]? = some run ∧
      x.run feed service query (feed.after fed (queries.take n))
        (service.after state ((runs.take n).flatMap Run.calls)) =
          (run, feed.after fed (queries.take (n + 1))) := by
  induction queries generalizing fed state n with
  | nil => cases place
  | cons first rest ih =>
    obtain ⟨-, moved, fetched⟩ := x.run_ends feed service first fed state
    cases n with
    | zero =>
      cases place
      exact ⟨_, rfl, Prod.ext rfl fetched⟩
    | succ n =>
      obtain ⟨run, there, same⟩ := ih (x.run feed service first fed state).2
        (x.run feed service first fed state).1.state place
      refine ⟨run, there, ?_⟩
      rw [fetched] at same there
      simp only [runAll, fetched, List.take_succ_cons, List.flatMap_cons, Service.after_append, ← moved]
      exact same

/-- **The calls of a sequence of runs are accounted for.** The `n`-th run asks the message service once,
in the state that the `n` queries before left. It starts from the empty point, as every run does, and
the section of all answers that belongs to its calls tells what it makes of them. -/
theorem runAll_requests (x : Extractor) (feed : Feed τ) (service : Service σ) (queries : List Query)
    (fed : τ) (state : σ) :
    let runs := x.runAll feed service queries fed state
    let answers := service.answers state (runs.flatMap Run.calls)
    runs.length = queries.length ∧ answers.length = (runs.flatMap Run.calls).length ∧
      ∀ n query, queries[n]? = some query → ∃ run, runs[n]? = some run ∧
        let earlier := (runs.take n).flatMap Run.calls
        let fedBefore := feed.after fed (queries.take n)
        x.run feed service query fedBefore (service.after state earlier) =
          (run, feed.after fed (queries.take (n + 1))) ∧
        run.state = service.after state (earlier ++ run.calls) ∧
        x.Requests ((answers.drop earlier.length).take run.calls.length) (feed query fedBefore).1.1
          run := by
  intro runs answers
  refine ⟨x.length_runAll feed service queries fed state, service.length_answers state _, ?_⟩
  intro n query place
  obtain ⟨run, there, same⟩ := x.getElem?_runAll feed service queries fed state place
  obtain ⟨ends, moved, -⟩ := x.run_ends feed service query (feed.after fed (queries.take n))
    (service.after state ((runs.take n).flatMap Run.calls))
  rw [same] at ends moved
  refine ⟨run, there, same, ?_, ?_⟩
  · rw [Service.after_append]
    exact moved
  · obtain ⟨inside, is⟩ := List.getElem?_eq_some_iff.mp there
    have parts : runs.flatMap Run.calls = (runs.take n).flatMap Run.calls ++ run.calls ++
        (runs.drop (n + 1)).flatMap Run.calls := by
      rw [List.append_assoc, ← is, ← List.flatMap_cons, ← List.drop_eq_getElem_cons inside,
        ← List.flatMap_append, List.take_append_drop]
    simp only [answers, parts, Service.answers_section]
    exact ends.requests

end Extractor

/-- Two runs over the mixed messages: the first one gets no answer in time, the second one a position. -/
def twoMixedRuns (x : Extractor) : List (Run (List Answer)) :=
  x.runAll Feed.ofList Service.ofList [⟨"guid", "2023-11-14"⟩, ⟨"guid", "2023-11-14"⟩]
    [(.ok mixedMessages, []), (.ok mixedMessages, [])]
    [.error (.timeout (.ofSeconds 5)),
      .ok (.object [("Lat", .number (.natural 46)), ("Lon", .number (.negative 73))])]

/-- The second run takes the second answer for its raw measurements, although the first one ended at
them. -/
theorem runAll_requests_after_timeout :
    ∃ run track, (twoMixedRuns sampleExtractor)[1]? = some run ∧
      run.result = .ok track ∧ 2 ∈ track.rows.map TrackRow.index := by
  obtain ⟨-, -, law⟩ := Extractor.runAll_requests sampleExtractor Feed.ofList
    Service.ofList [⟨"guid", "2023-11-14"⟩, ⟨"guid", "2023-11-14"⟩]
    [(.ok mixedMessages, []), (.ok mixedMessages, [])]
    [.error (.timeout (.ofSeconds 5)),
      .ok (.object [("Lat", .number (.natural 46)), ("Lon", .number (.negative 73))])]
  obtain ⟨run, there, -, -, requests⟩ := law 1 _ rfl
  obtain ⟨track, done⟩ : ∃ track, run.result = .ok track := by
    cases there
    exact ⟨_, rfl⟩
  refine ⟨run, track, there, done, ?_⟩
  generalize fetched : (Feed.ofList _ _).1.1 = messages at requests
  generalize given : List.take _ _ = answers at requests
  cases requests with
  | finished result _ passed _ located =>
    cases result.symm.trans done
    cases fetched
    obtain ⟨answer, own, -⟩ := passed 2 _ rfl rfl
    refine (located 2 _ answer rfl rfl own).mpr ?_
    have second := own.answered
    rw [← given] at second
    cases there
    cases second
    rfl
  | unfetched result => cases result.symm.trans done
  | empty result => cases result.symm.trans done
  | oversized _ _ result => cases result.symm.trans done
  | refused _ _ _ _ result => cases result.symm.trans done

end SatelliteTrack
