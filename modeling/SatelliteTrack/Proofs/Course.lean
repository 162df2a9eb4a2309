import SatelliteTrack.Proofs.Contribution

/-!
# The course of a run

A run is two things that do not meet. The contributions of the messages are gathered in order, each with
the answer to its own request (`Extractor.Gathers`): this moves the position service and decides whether
the run fails, and no point has a part in it. Then the points are laid over one another
(`Extractor.notes`), which no answer and no failure has a part in.

`Extractor.Ends` says in four cases all that a run does, and `run_ends` that every run is one of them.
The laws of runs are read off these cases.
-/

namespace SatelliteTrack

variable {σ τ : Type}

/-- The element between two lists stands at the length of the first. -/
theorem getElem?_append_cons_length {α : Type} (before : List α) (a : α) (rest : List α) :
    (before ++ a :: rest)[before.length]? = some a := by
  rw [List.getElem?_append_right (Nat.le_refl _), Nat.sub_self, List.getElem?_cons_zero]

namespace Extractor

/-! ## The messages of a run -/

/-- The messages give these contributions, each with the answer to its own request. -/
inductive Gathers (x : Extractor) (service : Service σ) : σ → List Message → List Contribution → Prop
  | nil {state : σ} : Gathers x service state [] []
  | cons {state : σ} {m : Message} {c : Contribution} {ms : List Message} {cs : List Contribution}
      (head : m.contribution (service (x.call m) state).1 = .ok c)
      (tail : Gathers x service (service.after state (x.callsOf m)) ms cs) :
      Gathers x service state (m :: ms) (c :: cs)

/-- The point that is carried on from a contribution. -/
def carried (x : Extractor) (previous : TrackPoint) : Contribution → TrackPoint
  | .nothing _ => previous
  | .point own => if x.carryForward then own.laidOver previous else previous

theorem carry_note (x : Extractor) (index : Nat) (previous : TrackPoint) (c : Contribution) :
    x.carry previous (c.note index previous) = x.carried previous c := by
  cases c <;> rfl

/-- The notes about contributions, the points laid over one another. -/
def notes (x : Extractor) : (index : Nat) → (previous : TrackPoint) → List Contribution →
    List LogbookNote
  | _, _, [] => []
  | index, previous, c :: cs =>
    c.note index previous :: x.notes (index + 1) (x.carried previous c) cs

/-- **The two ways of a walk**: every message gives its contribution, or the first one that does not ends
it. Either way the calls are those of the messages that were reached, and they alone move the service. -/
theorem walk_cases (x : Extractor) (service : Service σ) (index : Nat) (previous : TrackPoint)
    (state : σ) (messages : List Message) :
    let w := x.walk service index previous state messages
    w.state = service.after state w.calls ∧
    ((∃ cs, x.Gathers service state messages cs ∧ w.result = .ok (x.notes index previous cs) ∧
        w.calls = messages.flatMap x.callsOf) ∨
      ∃ before m rest cs failure, messages = before ++ m :: rest ∧ x.Gathers service state before cs ∧
        m.contribution (x.answer service state before m) = .error failure ∧
        w.result = .error failure ∧ w.calls = (before ++ [m]).flatMap x.callsOf) := by
  induction messages generalizing index previous state with
  | nil => exact ⟨rfl, .inl ⟨[], .nil, rfl, rfl⟩⟩
  | cons m ms ih =>
    obtain ⟨result, after, calls⟩ := x.visit_contribution service index previous state m
    cases given : m.contribution (service (x.call m) state).1 with
    | error failure =>
      rw [given] at result
      simp only [walk, result, Except.map]
      refine ⟨by rw [after, calls], .inr ⟨[], m, ms, [], failure, rfl, .nil, given, rfl, ?_⟩⟩
      rw [calls, List.nil_append, List.flatMap_singleton]
    | ok c =>
      rw [given] at result
      simp only [walk, result, Except.map, after, calls, x.carry_note]
      obtain ⟨moved, ways⟩ := ih (index + 1) (x.carried previous c) (service.after state (x.callsOf m))
      refine ⟨by rw [moved, Service.after_append], ?_⟩
      rcases ways with ⟨cs, gathers, done, asked⟩ |
        ⟨before, n, rest, cs, failure, parts, gathers, failed, stopped, asked⟩
      · refine .inl ⟨c :: cs, .cons given gathers, ?_, ?_⟩
        · rw [done]
          rfl
        · rw [asked, List.flatMap_cons]
      · refine .inr ⟨m :: before, n, rest, c :: cs, failure, ?_, .cons given gathers, ?_, ?_, ?_⟩
        · rw [parts, List.cons_append]
        · rw [x.answer_cons, failed]
        · rw [stopped]
        · rw [asked, List.cons_append, List.flatMap_cons]

/-! ## Message by message -/

section

variable {x : Extractor} {service : Service σ} {state : σ} {messages : List Message}
  {cs : List Contribution}

theorem Gathers.length_eq (h : x.Gathers service state messages cs) : cs.length = messages.length := by
  induction h with
  | nil => rfl
  | cons _ _ ih => rw [List.length_cons, List.length_cons, ih]

/-- Each message has its contribution at its own place. -/
theorem Gathers.getElem? (h : x.Gathers service state messages cs) {i : Nat} {m : Message}
    (hm : messages[i]? = some m) : ∃ c, cs[i]? = some c ∧
      m.contribution (x.answer service state (messages.take i) m) = .ok c := by
  induction h generalizing i with
  | nil => cases hm
  | cons head tail ih =>
    cases i with
    | zero =>
      cases hm
      exact ⟨_, rfl, head⟩
    | succ i =>
      obtain ⟨c, hc, given⟩ := ih hm
      refine ⟨c, hc, ?_⟩
      rw [List.take_succ_cons, x.answer_cons]
      exact given

/-- Each contribution is that of a message. -/
theorem Gathers.message_of_getElem? (h : x.Gathers service state messages cs) {i : Nat}
    {c : Contribution} (hc : cs[i]? = some c) : ∃ m, messages[i]? = some m ∧
      m.contribution (x.answer service state (messages.take i) m) = .ok c := by
  obtain ⟨inside, -⟩ := List.getElem?_eq_some_iff.mp hc
  rw [h.length_eq] at inside
  have place := List.getElem?_eq_getElem inside
  obtain ⟨c', hc', given⟩ := h.getElem? place
  rw [hc] at hc'
  cases hc'
  exact ⟨_, place, given⟩

theorem Gathers.take (h : x.Gathers service state messages cs) (i : Nat) :
    x.Gathers service state (messages.take i) (cs.take i) := by
  induction h generalizing i with
  | nil => simpa using .nil
  | cons head _ ih =>
    cases i with
    | zero => exact .nil
    | succ i => exact .cons head (ih i)

/-- When all messages give something, the calls are one for each message with raw measurements. -/
theorem Gathers.flatMap_callsOf (h : x.Gathers service state messages cs) :
    messages.flatMap x.callsOf = (messages.filter Message.isRaw).map x.call := by
  induction h with
  | nil => rfl
  | @cons state m c ms cs head _ ih =>
    rw [List.flatMap_cons, ih]
    cases raw : m.isRaw with
    | false => simp [callsOf, raw]
    | true =>
      have passed := Message.failure?_of_contribution head raw
      obtain ⟨fits, -⟩ := (m.failure?_eq_none_iff _).mp passed
      simp [callsOf, raw, fits]

theorem Gathers.length_flatMap_callsOf (h : x.Gathers service state messages cs) :
    (messages.flatMap x.callsOf).length = messages.countP Message.isRaw := by
  rw [h.flatMap_callsOf, List.length_map, List.countP_eq_length_filter]

/-- The call of a message with raw measurements stands behind those of the earlier ones, and so does the
answer to it. -/
theorem Gathers.answer_of_raw (h : x.Gathers service state messages cs) {i : Nat} {m : Message}
    (hm : messages[i]? = some m) (raw : m.isRaw = true) :
    (messages.flatMap x.callsOf)[(messages.take i).countP Message.isRaw]? = some (x.call m) ∧
      (service.answers state (messages.flatMap x.callsOf))[(messages.take i).countP Message.isRaw]? =
        some (x.answer service state (messages.take i) m) := by
  obtain ⟨inside, rfl⟩ := List.getElem?_eq_some_iff.mp hm
  have parts : messages.flatMap x.callsOf = (messages.take i).flatMap x.callsOf ++
      x.call messages[i] :: ((messages.drop (i + 1)).filter Message.isRaw).map x.call := by
    rw [(h.take i).flatMap_callsOf, h.flatMap_callsOf, ← List.map_cons, ← List.map_append,
      ← List.filter_cons_of_pos raw, ← List.filter_append, ← List.drop_eq_getElem_cons inside,
      List.take_append_drop]
  have count := (h.take i).length_flatMap_callsOf
  have called : (messages.flatMap x.callsOf)[(messages.take i).countP Message.isRaw]? =
      some (x.call messages[i]) := by
    rw [parts, ← count, getElem?_append_cons_length]
  refine ⟨called, ?_⟩
  rw [Service.getElem?_answers, called, Option.map_some, parts, ← count, List.take_left]
  rfl

end

/-- The point that is carried on after contributions, from the empty point on. -/
def carriedAfter (x : Extractor) (cs : List Contribution) : TrackPoint := cs.foldl x.carried .empty

theorem length_notes (x : Extractor) (index : Nat) (previous : TrackPoint) (cs : List Contribution) :
    (x.notes index previous cs).length = cs.length := by
  induction cs generalizing index previous with
  | nil => rfl
  | cons c cs ih => rw [notes, List.length_cons, List.length_cons, ih]

theorem getElem?_notes (x : Extractor) (index : Nat) (previous : TrackPoint) (cs : List Contribution)
    (i : Nat) : (x.notes index previous cs)[i]? =
      cs[i]?.map (Contribution.note (index + i) ((cs.take i).foldl x.carried previous)) := by
  induction cs generalizing index previous i with
  | nil => rfl
  | cons c cs ih =>
    cases i with
    | zero => rfl
    | succ i =>
      rw [notes, List.getElem?_cons_succ, ih, List.getElem?_cons_succ, List.take_succ_cons,
        List.foldl_cons, Nat.add_right_comm, Nat.add_assoc]

/-! ## The whole run -/

/-- The rows about contributions, in the order of the messages, complete or not. -/
def rows (x : Extractor) (cs : List Contribution) : List TrackRow :=
  (x.notes 0 .empty cs).filterMap LogbookNote.row?

/-- The track of contributions. -/
def track (x : Extractor) (cs : List Contribution) : Track where
  rows := ((x.rows cs).mergeSort TrackRow.le).filter fun row => row.point.isComplete
  collected := (x.rows cs).length
  skipped := (x.notes 0 .empty cs).filterMap LogbookNote.skip?

/-- The notes are about the contributions, each at its own place and over what was carried to it. -/
theorem mem_notes (x : Extractor) (cs : List Contribution) (note : LogbookNote) :
    note ∈ x.notes 0 .empty cs ↔
      ∃ i, ∃ c : Contribution, cs[i]? = some c ∧ c.note i (x.carriedAfter (cs.take i)) = note := by
  simp only [List.mem_iff_getElem?, getElem?_notes, Option.map_eq_some_iff, Nat.zero_add, carriedAfter]

/-- The points of the rows are the contributions over what was carried to them. -/
theorem mem_rows (x : Extractor) (cs : List Contribution) (row : TrackRow) :
    row ∈ x.rows cs ↔ ∃ own, cs[row.index]? = some (.point own) ∧
      row.point = own.laidOver (x.carriedAfter (cs.take row.index)) := by
  simp only [rows, List.mem_filterMap, mem_notes]
  constructor
  · rintro ⟨_, ⟨i, c, place, rfl⟩, kept⟩
    cases c with
    | nothing size => cases kept
    | point own =>
      cases kept
      exact ⟨own, place, rfl⟩
  · rintro ⟨own, place, laid⟩
    refine ⟨_, ⟨row.index, _, place, rfl⟩, ?_⟩
    rw [Contribution.note, ← laid]
    rfl

/-- The skips are the contributions without a point. -/
theorem mem_skipped (x : Extractor) (cs : List Contribution) (skip : Skip) :
    skip ∈ (x.track cs).skipped ↔ cs[skip.message]? = some (.nothing skip.size) := by
  simp only [track]
  rw [List.mem_filterMap]
  simp only [mem_notes]
  constructor
  · rintro ⟨_, ⟨i, c, place, rfl⟩, kept⟩
    cases c with
    | nothing size =>
      cases kept
      exact place
    | point own => cases kept
  · intro place
    exact ⟨_, ⟨skip.message, _, place, rfl⟩, rfl⟩

theorem mem_track_rows (x : Extractor) (cs : List Contribution) (row : TrackRow) :
    row ∈ (x.track cs).rows ↔ row ∈ x.rows cs ∧ row.point.latitude.isSome := by
  simp only [track, List.mem_filter, List.mem_mergeSort, TrackPoint.isComplete]

/-- How a run over what was fetched ends. -/
inductive Ends (x : Extractor) (service : Service σ) (state : σ) : Fetched → Run σ → Prop
  | unfetched {error : TransportError} {run : Run σ} (result : run.result = .error (.transport error))
      (calls : run.calls = []) : Ends x service state (.error error) run
  | empty {run : Run σ} (result : run.result = .error .emptyResult) (calls : run.calls = []) :
      Ends x service state (.ok []) run
  | finished {messages : List Message} {cs : List Contribution} {run : Run σ} (nonempty : messages ≠ [])
      (gathers : x.Gathers service state messages cs) (result : run.result = .ok (x.track cs))
      (calls : run.calls = messages.flatMap x.callsOf) : Ends x service state (.ok messages) run
  | stopped {before rest : List Message} {m : Message} {cs : List Contribution} {failure : Failure}
      {run : Run σ} (gathers : x.Gathers service state before cs)
      (failed : m.contribution (x.answer service state before m) = .error failure)
      (result : run.result = .error failure)
      (calls : run.calls = (before ++ [m]).flatMap x.callsOf) :
      Ends x service state (.ok (before ++ m :: rest)) run

theorem extract_ends (x : Extractor) (service : Service σ) (state : σ) (messages : List Message) :
    let run := x.extract service state messages
    x.Ends service state (.ok messages) run ∧ run.state = service.after state run.calls := by
  cases messages with
  | nil => exact ⟨.empty rfl rfl, rfl⟩
  | cons m ms =>
    obtain ⟨moved, ways⟩ := x.walk_cases service 0 .empty state (m :: ms)
    rcases ways with ⟨cs, gathers, done, asked⟩ |
      ⟨before, n, rest, cs, failure, parts, gathers, failed, stopped, asked⟩
    · have noted : x.notes 0 .empty cs ≠ [] := by
        rw [← List.length_pos_iff, x.length_notes, gathers.length_eq]
        exact Nat.succ_pos _
      simp only [extract, List.isEmpty_cons, Bool.false_eq_true, ↓reduceIte, done,
        Logbook.toTrack_ofNotes noted]
      exact ⟨.finished (List.cons_ne_nil m ms) gathers rfl asked, moved⟩
    · simp only [extract, List.isEmpty_cons, Bool.false_eq_true, ↓reduceIte, stopped]
      rw [parts] at moved asked stopped ⊢
      exact ⟨.stopped gathers failed rfl asked, moved⟩

/-- **Every run ends in one of four ways**, moves the position service by its calls alone, and asks the
message service once. -/
theorem run_ends (x : Extractor) (feed : Feed τ) (service : Service σ) (query : Query) (fed : τ)
    (state : σ) :
    let run := (x.run feed service query fed state).1
    x.Ends service state (feed query fed).1.1 run ∧ run.state = service.after state run.calls ∧
      (x.run feed service query fed state).2 = (feed query fed).2 := by
  unfold run
  rcases feed query fed with ⟨⟨fetched, log⟩, fed⟩
  cases fetched with
  | error error => exact ⟨.unfetched rfl rfl, rfl, rfl⟩
  | ok messages =>
    obtain ⟨ends, moved⟩ := x.extract_ends service state messages
    refine ⟨?_, moved, rfl⟩
    cases ends with
    | empty result calls => exact .empty result calls
    | finished nonempty gathers result calls => exact .finished nonempty gathers result calls
    | stopped gathers failed result calls => exact .stopped gathers failed result calls

/-- Every call of a run is the call of a message with raw measurements whose envelope fits. -/
theorem Ends.exists_caller {x : Extractor} {service : Service σ} {state : σ} {fetched : Fetched}
    {run : Run σ} (h : x.Ends service state fetched run) {call : Call} (mem : call ∈ run.calls) :
    ∃ m : Message, m.isRaw = true ∧ m.fits = true ∧ call = x.call m := by
  have of_messages {messages : List Message} (inside : call ∈ messages.flatMap x.callsOf) :
      ∃ m : Message, m.isRaw = true ∧ m.fits = true ∧ call = x.call m := by
    obtain ⟨m, -, own⟩ := List.mem_flatMap.mp inside
    unfold callsOf at own
    split at own
    · next asks =>
      obtain ⟨raw, fits⟩ := Bool.and_eq_true_iff.mp asks
      exact ⟨m, raw, fits, List.mem_singleton.mp own⟩
    · cases own
  cases h with
  | unfetched _ calls => rw [calls] at mem; cases mem
  | empty _ calls => rw [calls] at mem; cases mem
  | finished _ _ _ calls => exact of_messages (calls ▸ mem)
  | stopped _ _ _ calls => exact of_messages (calls ▸ mem)

/-- A run with a track gathered the contributions of all messages. -/
theorem run_eq_ok (x : Extractor) (feed : Feed τ) (service : Service σ) (query : Query) (fed : τ)
    (state : σ) {track : Track} (h : (x.run feed service query fed state).1.result = .ok track) :
    ∃ messages cs, (feed query fed).1.1 = .ok messages ∧ messages ≠ [] ∧
      x.Gathers service state messages cs ∧ track = x.track cs ∧
      (x.run feed service query fed state).1.calls = messages.flatMap x.callsOf := by
  obtain ⟨ends, -⟩ := x.run_ends feed service query fed state
  generalize (x.run feed service query fed state).1 = run at ends h ⊢
  generalize (feed query fed).1.1 = fetched at ends ⊢
  cases ends with
  | unfetched result => rw [result] at h; cases h
  | empty result => rw [result] at h; cases h
  | @finished messages cs _ nonempty gathers result calls =>
    rw [result] at h
    cases h
    exact ⟨messages, cs, rfl, nonempty, gathers, rfl, calls⟩
  | stopped _ _ result => rw [result] at h; cases h

end Extractor

end SatelliteTrack
