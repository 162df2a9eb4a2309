import SatelliteTrack.Proofs.Course

/-!
# Runs as functions of what is gathered

`Extractor.Gathers` says that messages give certain contributions. `Extractor.gather` finds them, or the
first failure, together with the calls that were made until then, so that two runs can be compared by
equations. Neither the carried points nor the numbers of the messages have a part in it.

`Ends.eq_gather` is the bridge: a run over messages is what is gathered from them, with the contributions
made into a track. `gather_append` is the law of a list in two parts: what the second part
gives counts only when the first one has given all its contributions, and it is asked for in the state
that the first one left.
-/

namespace SatelliteTrack

variable {σ : Type}

/-- What is gathered from messages: their contributions or the first failure, and the calls up to it. -/
structure Gathering where
  result : Except Failure (List Contribution)
  calls : List Call

namespace Gathering

/-- What is gathered from no messages. -/
def nothing : Gathering := { result := .ok [], calls := [] }

/-- What is gathered from more messages counts only after contributions. -/
def append (earlier later : Gathering) : Gathering :=
  match earlier.result with
  | .error _ => earlier
  | .ok cs => { result := later.result.map (cs ++ ·), calls := earlier.calls ++ later.calls }

instance : Append Gathering := ⟨append⟩

theorem append_of_error {earlier : Gathering} {failure : Failure}
    (h : earlier.result = .error failure) (later : Gathering) : earlier ++ later = earlier := by
  show append earlier later = earlier
  rw [append, h]

theorem append_of_ok {earlier : Gathering} {cs : List Contribution} (h : earlier.result = .ok cs)
    (later : Gathering) : earlier ++ later =
      { result := later.result.map (cs ++ ·), calls := earlier.calls ++ later.calls } := by
  show append earlier later = _
  rw [append, h]

theorem nothing_append (g : Gathering) : nothing ++ g = g := by
  rw [append_of_ok rfl]
  obtain ⟨result, calls⟩ := g
  cases result <;> rfl

theorem append_assoc (a b c : Gathering) : a ++ b ++ c = a ++ (b ++ c) := by
  cases first : a.result with
  | error failure => rw [append_of_error first, append_of_error first, append_of_error first]
  | ok cs =>
    cases second : b.result with
    | error failure =>
      have stopped : (a ++ b).result = .error failure := by
        rw [append_of_ok first, second]
        rfl
      rw [append_of_error stopped, append_of_error second]
    | ok ds =>
      have both : (a ++ b).result = .ok (cs ++ ds) := by
        rw [append_of_ok first, second]
        rfl
      rw [append_of_ok both, append_of_ok second, append_of_ok first, append_of_ok first]
      simp only [List.append_assoc, mk.injEq, and_true]
      cases c.result <;> rfl

end Gathering

namespace Extractor

/-- What is gathered from one message. -/
def gatherOne (x : Extractor) (service : Service σ) (state : σ) (m : Message) : Gathering where
  result := (m.contribution (service (x.call m) state).1).map ([·])
  calls := x.callsOf m

/-- What is gathered from messages in turn, each with the answer to its own request. -/
def gather (x : Extractor) (service : Service σ) : σ → List Message → Gathering
  | _, [] => .nothing
  | state, m :: ms =>
    x.gatherOne service state m ++ x.gather service (service.after state (x.callsOf m)) ms

section

variable {x : Extractor} {service : Service σ} {state : σ} {m : Message}

/-- After a message that gives a failure nothing counts. -/
theorem gather_cons_of_error {failure : Failure}
    (failed : m.contribution (service (x.call m) state).1 = .error failure) (ms : List Message) :
    x.gather service state (m :: ms) = { result := .error failure, calls := x.callsOf m } := by
  have stopped : (x.gatherOne service state m).result = .error failure := by
    rw [gatherOne, failed]
    rfl
  rw [gather, Gathering.append_of_error stopped, gatherOne, failed]
  rfl

theorem gather_cons_of_ok {c : Contribution}
    (given : m.contribution (service (x.call m) state).1 = .ok c) (ms : List Message) :
    x.gather service state (m :: ms) =
      let rest := x.gather service (service.after state (x.callsOf m)) ms
      { result := rest.result.map (c :: ·), calls := x.callsOf m ++ rest.calls } := by
  have went : (x.gatherOne service state m).result = .ok [c] := by
    rw [gatherOne, given]
    rfl
  rw [gather, Gathering.append_of_ok went]
  rfl

end

/-- **A list in two parts.** A failure in the first part ends it; otherwise the second part goes on from
where the calls of the first one left the service. -/
theorem gather_append (x : Extractor) (service : Service σ) (state : σ) (first second : List Message) :
    x.gather service state (first ++ second) =
      x.gather service state first ++
        x.gather service (service.after state (x.gather service state first).calls) second := by
  induction first generalizing state with
  | nil => exact (Gathering.nothing_append _).symm
  | cons m ms ih =>
    rw [List.cons_append, gather, ih, gather, Gathering.append_assoc]
    -- after a failure the state that is left does not matter, since nothing more is asked for
    cases given : (x.gatherOne service state m).result with
    | error failure => rw [Gathering.append_of_error given, Gathering.append_of_error given]
    | ok cs =>
      have moved : (x.gatherOne service state m ++
          x.gather service (service.after state (x.callsOf m)) ms).calls =
            x.callsOf m ++ (x.gather service (service.after state (x.callsOf m)) ms).calls := by
        rw [Gathering.append_of_ok given]
        rfl
      rw [moved, Service.after_append]

/-! ## The bridge to runs -/

section

variable {x : Extractor} {service : Service σ} {state : σ} {messages : List Message}
  {cs : List Contribution}

theorem Gathers.gather_eq (h : x.Gathers service state messages cs) :
    x.gather service state messages =
      { result := .ok cs, calls := messages.flatMap x.callsOf } := by
  induction h with
  | nil => rfl
  | cons head _ ih =>
    rw [gather_cons_of_ok head, ih, List.flatMap_cons]
    rfl

theorem gathers_of_gather (h : (x.gather service state messages).result = .ok cs) :
    x.Gathers service state messages cs := by
  induction messages generalizing state cs with
  | nil =>
    cases h
    exact .nil
  | cons m ms ih =>
    cases given : m.contribution (service (x.call m) state).1 with
    | error failure =>
      rw [gather_cons_of_error given] at h
      cases h
    | ok c =>
      rw [gather_cons_of_ok given] at h
      cases rest : (x.gather service (service.after state (x.callsOf m)) ms).result with
      | error failure =>
        simp only [rest] at h
        cases h
      | ok ds =>
        simp only [rest] at h
        cases h
        exact .cons given (ih rest)

/-- A message that gives a failure is the last one that counts. -/
theorem Gathers.gather_stopped {before : List Message} (h : x.Gathers service state before cs)
    {m : Message} {failure : Failure}
    (failed : m.contribution (x.answer service state before m) = .error failure) (rest : List Message) :
    x.gather service state (before ++ m :: rest) =
      { result := .error failure, calls := (before ++ [m]).flatMap x.callsOf } := by
  rw [gather_append, h.gather_eq, gather_cons_of_error failed, Gathering.append_of_ok rfl,
    List.flatMap_append, List.flatMap_singleton]
  rfl

/-- **A run that ends over messages** makes a track of what is gathered from them, or fails as that
does. -/
theorem Ends.eq_gather {run : Run σ} (h : x.Ends service state (.ok messages) run)
    (nonempty : messages ≠ []) :
    run.result = (x.gather service state messages).result.map x.track ∧
      run.calls = (x.gather service state messages).calls := by
  cases h with
  | empty => exact absurd rfl nonempty
  | finished _ gathers result calls =>
    rw [gathers.gather_eq]
    exact ⟨result, calls⟩
  | stopped gathers failed result calls =>
    rw [gathers.gather_stopped failed]
    exact ⟨result, calls⟩

/-- A run over messages makes a track when they all give their contributions. -/
theorem Ends.result_eq_ok_iff {run : Run σ} (h : x.Ends service state (.ok messages) run)
    (nonempty : messages ≠ []) (track : Track) :
    run.result = .ok track ↔ ∃ cs, x.Gathers service state messages cs ∧ track = x.track cs := by
  obtain ⟨result, -⟩ := h.eq_gather nonempty
  rw [result]
  constructor
  · intro done
    cases given : (x.gather service state messages).result with
    | error failure =>
      rw [given] at done
      cases done
    | ok cs =>
      rw [given] at done
      cases done
      exact ⟨cs, gathers_of_gather given, rfl⟩
  · rintro ⟨cs, gathers, rfl⟩
    rw [gathers.gather_eq]
    rfl

theorem Ends.exists_ok_iff {run : Run σ} (h : x.Ends service state (.ok messages) run)
    (nonempty : messages ≠ []) :
    (∃ track, run.result = .ok track) ↔ ∃ cs, x.Gathers service state messages cs := by
  constructor
  · rintro ⟨track, done⟩
    obtain ⟨cs, gathers, -⟩ := (h.result_eq_ok_iff nonempty track).mp done
    exact ⟨cs, gathers⟩
  · rintro ⟨cs, gathers⟩
    exact ⟨x.track cs, (h.result_eq_ok_iff nonempty _).mpr ⟨cs, gathers, rfl⟩⟩

theorem Ends.of_nil {run : Run σ} (h : x.Ends service state (.ok []) run) :
    run.result = .error .emptyResult ∧ run.calls = [] := by
  generalize none : ([] : List Message) = messages at h
  cases h with
  | empty result calls => exact ⟨result, calls⟩
  | finished nonempty => exact absurd none.symm nonempty
  | stopped => simp at none

/-- A run over messages, however they were fetched. -/
inductive RunsOver (x : Extractor) (service : Service σ) (state : σ) (messages : List Message) :
    Run σ → Prop
  | of_fetched {τ : Type} (feed : Feed τ) (query : Query) (fed : τ)
      (fetched : (feed query fed).1.1 = .ok messages) :
      RunsOver x service state messages (x.run feed service query fed state).1

theorem RunsOver.ends {run : Run σ} (h : x.RunsOver service state messages run) :
    x.Ends service state (.ok messages) run := by
  obtain ⟨feed, query, fed, fetched⟩ := h
  rw [← fetched]
  exact (x.run_ends feed service query fed state).1

end

/-- A run over given messages. -/
def runOn (x : Extractor) (service : Service σ) (state : σ) (messages : List Message) : Run σ :=
  (x.run Feed.ofList service ⟨"guid", "2023-11-14"⟩ [(.ok messages, [])] state).1

theorem runsOver_runOn (x : Extractor) (service : Service σ) (state : σ) (messages : List Message) :
    x.RunsOver service state messages (x.runOn service state messages) :=
  .of_fetched Feed.ofList _ [(.ok messages, [])] rfl

end Extractor

/-- An answer with a position. -/
def samplePosition : Answer :=
  .ok (.object [("Lat", .number (.natural 46)), ("Lon", .number (.negative 73))])

end SatelliteTrack
