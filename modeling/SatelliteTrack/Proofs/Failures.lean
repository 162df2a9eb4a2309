import SatelliteTrack.Proofs.Course

/-!
# When a run fails

`Extractor.Fails` lists the ways in which a run fails, from what was fetched and from the answers alone:
there are no messages to be had, or none at all, or a round-trip fails. Of several round-trips that fail
the first one counts. `run_fails_iff` is the law: a run fails in these ways and in no other, so neither a
payload of another size nor a point that stays incomplete ever ends a run.
-/

namespace SatelliteTrack

variable {σ τ : Type}

/-! ## One round-trip -/

/-- The round-trip of a message with raw measurements fails, given the answer to its request. -/
inductive Message.RoundTripFails (m : Message) : Answer → Failure → Prop
  /-- The envelope is refused, so there is no request and no answer counts. -/
  | tooLarge {answer : Answer} (large : messageLimit < m.envelopeText.utf8ByteSize) :
      RoundTripFails m answer (.payloadTooLarge m.envelopeText.utf8ByteSize messageLimit)
  /-- The call fails. -/
  | call (fits : m.envelopeText.utf8ByteSize ≤ messageLimit) {error : TransportError} :
      RoundTripFails m (.error error) (.transport error)
  /-- The answer is no object. -/
  | notObject (fits : m.envelopeText.utf8ByteSize ≤ messageLimit) {json : Json}
      (shape : ∀ members, json ≠ .object members) :
      RoundTripFails m (.ok json) (.transport (.response (.notObject json)))
  /-- The latitude in the answer is neither null nor a number. -/
  | latitude (fits : m.envelopeText.utf8ByteSize ≤ messageLimit) {members : List (String × Json)}
      {found : Json.Found} (misfit : (Json.object members).misfitAt? "Lat" = some found) :
      RoundTripFails m (.ok (.object members))
        (.transport (.response (.answer (.invalidType found .number))))
  /-- The latitude is fine, and the longitude is neither null nor a number. -/
  | longitude (fits : m.envelopeText.utf8ByteSize ≤ messageLimit) {members : List (String × Json)}
      {found : Json.Found} (fine : (Json.object members).misfitAt? "Lat" = none)
      (misfit : (Json.object members).misfitAt? "Lon" = some found) :
      RoundTripFails m (.ok (.object members))
        (.transport (.response (.answer (.invalidType found .number))))

namespace Message

theorem fits_eq_true_iff (m : Message) :
    m.fits = true ↔ m.envelopeText.utf8ByteSize ≤ messageLimit := by
  rw [fits, decide_eq_true_eq]

theorem fits_eq_false_iff (m : Message) :
    m.fits = false ↔ messageLimit < m.envelopeText.utf8ByteSize := by
  rw [fits, decide_eq_false_iff_not, Nat.not_le]

theorem RoundTripFails.of_refusal? {m : Message} (fits : m.envelopeText.utf8ByteSize ≤ messageLimit)
    {answer : Answer} {error : TransportError} (refused : answer.refusal? = some error) :
    m.RoundTripFails answer (.transport error) := by
  cases answer with
  | error error =>
    cases refused
    exact .call fits
  | ok json =>
    cases json with
    | object members =>
      simp only [Answer.refusal?, Option.map_eq_some_iff] at refused
      obtain ⟨found, misfit, rfl⟩ := refused
      cases latitude : (Json.object members).misfitAt? "Lat" with
      | some other =>
        rw [latitude] at misfit
        cases misfit
        exact .latitude fits latitude
      | none =>
        rw [latitude, Option.none_or] at misfit
        exact .longitude fits latitude misfit
    | _ =>
      cases refused
      refine .notObject fits ?_
      intro members shape
      cases shape

/-- A round-trip fails at the service or at the limit. -/
theorem RoundTripFails.kind {m : Message} {answer : Answer} {failure : Failure}
    (h : m.RoundTripFails answer failure) : (∃ error, failure = .transport error) ∨
      ∃ size, messageLimit < size ∧ failure = .payloadTooLarge size messageLimit := by
  cases h with
  | tooLarge large => exact .inr ⟨_, large, rfl⟩
  | call => exact .inl ⟨_, rfl⟩
  | notObject => exact .inl ⟨_, rfl⟩
  | latitude => exact .inl ⟨_, rfl⟩
  | longitude => exact .inl ⟨_, rfl⟩

/-- A round-trip fails in these ways and in no other. -/
theorem failure?_eq_some_iff_fails (m : Message) (answer : Answer) (failure : Failure) :
    m.failure? answer = some failure ↔ m.RoundTripFails answer failure := by
  rw [m.failure?_eq_some_iff, m.fits_eq_true_iff, m.fits_eq_false_iff]
  constructor
  · rintro (⟨large, rfl⟩ | ⟨fits, error, refused, rfl⟩)
    · exact .tooLarge large
    · exact .of_refusal? fits refused
  · intro fails
    cases fails with
    | tooLarge large => exact .inl ⟨large, rfl⟩
    | call fits => exact .inr ⟨fits, _, rfl, rfl⟩
    | @notObject fits json shape =>
      refine .inr ⟨fits, _, ?_, rfl⟩
      cases json with
      | object members => exact absurd rfl (shape members)
      | _ => rfl
    | latitude fits misfit => exact .inr ⟨fits, _, by rw [Answer.refusal?, misfit]; rfl, rfl⟩
    | longitude fits fine misfit =>
      exact .inr ⟨fits, _, by rw [Answer.refusal?, fine, misfit]; rfl, rfl⟩

end Message

/-! ## A whole run -/

namespace Extractor

/-- A run over what was fetched fails. -/
inductive Fails (x : Extractor) (service : Service σ) (state : σ) : Fetched → Failure → Prop
  | unfetched {error : TransportError} : Fails x service state (.error error) (.transport error)
  | empty : Fails x service state (.ok []) .emptyResult
  /-- The round-trip of a message with raw measurements fails, and none of those before it does. -/
  | roundTrip {messages : List Message} {i : Nat} {m : Message} {failure : Failure}
      (place : messages[i]? = some m) (raw : m.isRaw = true)
      (fails : m.RoundTripFails (x.answer service state (messages.take i) m) failure)
      (least : ∀ j < i, ∀ n, messages[j]? = some n → n.isRaw = true →
        ∀ other, ¬ n.RoundTripFails (x.answer service state (messages.take j) n) other) :
      Fails x service state (.ok messages) failure

/-- No round-trip of messages that give something fails. -/
theorem Gathers.not_fails {x : Extractor} {service : Service σ} {state : σ} {messages : List Message}
    {cs : List Contribution} (h : x.Gathers service state messages cs) {i : Nat} {m : Message}
    (place : messages[i]? = some m) (raw : m.isRaw = true) (failure : Failure) :
    ¬ m.RoundTripFails (x.answer service state (messages.take i) m) failure := by
  intro fails
  obtain ⟨c, -, given⟩ := h.getElem? place
  have passed := Message.failure?_of_contribution given raw
  rw [(m.failure?_eq_some_iff_fails _ failure).mpr fails] at passed
  cases passed

/-- Nor does any of theirs in a list that begins with them. -/
theorem Gathers.not_fails_before {x : Extractor} {service : Service σ} {state : σ}
    {before : List Message} {cs : List Contribution} (h : x.Gathers service state before cs)
    (rest : List Message) {j : Nat} (lt : j < before.length) {m : Message}
    (place : (before ++ rest)[j]? = some m) (raw : m.isRaw = true) (failure : Failure) :
    ¬ m.RoundTripFails (x.answer service state ((before ++ rest).take j) m) failure := by
  rw [List.getElem?_append_left lt] at place
  rw [List.take_append_of_le_length (Nat.le_of_lt lt)]
  exact h.not_fails place raw failure

theorem Ends.fails {x : Extractor} {service : Service σ} {state : σ} {fetched : Fetched} {run : Run σ}
    (h : x.Ends service state fetched run) {failure : Failure} (failed : run.result = .error failure) :
    x.Fails service state fetched failure := by
  cases h with
  | unfetched result =>
    cases result.symm.trans failed
    exact .unfetched
  | empty result =>
    cases result.symm.trans failed
    exact .empty
  | finished _ _ result => cases result.symm.trans failed
  | @stopped before rest m cs _ _ gathers stopped result =>
    cases result.symm.trans failed
    obtain ⟨raw, why⟩ := (m.contribution_eq_error_iff _ failure).mp stopped
    have fails := (m.failure?_eq_some_iff_fails _ failure).mp why
    have place := getElem?_append_cons_length before m rest
    refine .roundTrip place raw (by rwa [List.take_left]) fun j lt n there raw' other => ?_
    exact gathers.not_fails_before _ lt there raw' other

/-- A run that can fail does, and for this reason. -/
theorem Ends.result_of_fails {x : Extractor} {service : Service σ} {state : σ} {fetched : Fetched}
    {run : Run σ} (h : x.Ends service state fetched run) {failure : Failure}
    (fails : x.Fails service state fetched failure) : run.result = .error failure := by
  cases fails with
  | unfetched =>
    cases h with
    | unfetched result => exact result
  | empty =>
    generalize fetched : (.ok [] : Fetched) = given at h
    cases h with
    | unfetched => cases fetched
    | empty result => exact result
    | finished nonempty => cases fetched; exact absurd rfl nonempty
    | stopped => simp at fetched
  | @roundTrip messages i m _ place raw fails least =>
    generalize fetched : (.ok messages : Fetched) = given at h
    cases h with
    | unfetched => cases fetched
    | empty => cases fetched; cases place
    | finished _ gathers =>
      cases fetched
      exact absurd fails (gathers.not_fails place raw _)
    | @stopped before rest n cs first _ gathers stopped result =>
      cases fetched
      obtain ⟨raw', why⟩ := (n.contribution_eq_error_iff _ first).mp stopped
      have fails' := (n.failure?_eq_some_iff_fails _ first).mp why
      -- the place of the failing message is that of the message that ended the run
      rcases Nat.lt_trichotomy i before.length with lt | rfl | gt
      · rw [List.getElem?_append_left lt] at place
        rw [List.take_append_of_le_length (Nat.le_of_lt lt)] at fails
        exact absurd fails (gathers.not_fails place raw _)
      · rw [getElem?_append_cons_length] at place
        cases place
        rw [List.take_left, ← m.failure?_eq_some_iff_fails, why] at fails
        cases fails
        exact result
      · have there := getElem?_append_cons_length before n rest
        have earlier := least before.length gt n there raw' first
        rw [List.take_left] at earlier
        exact absurd fails' earlier

/-- The only failures of a run are those of the services, a list without messages and an envelope that is
too large. -/
theorem Fails.kind {x : Extractor} {service : Service σ} {state : σ} {fetched : Fetched}
    {failure : Failure} (h : x.Fails service state fetched failure) :
    (∃ error, failure = .transport error) ∨ (failure = .emptyResult ∧ fetched = .ok []) ∨
      ∃ size, messageLimit < size ∧ failure = .payloadTooLarge size messageLimit := by
  cases h with
  | @unfetched error => exact .inl ⟨error, rfl⟩
  | empty => exact .inr (.inl ⟨rfl, rfl⟩)
  | roundTrip _ _ fails =>
    rcases fails.kind with transport | tooLarge
    · exact .inl transport
    · exact .inr (.inr tooLarge)

/-- **When a run fails**: in the ways of `Fails` and in no other, with the failure that these say.
Otherwise there is a track. -/
theorem run_fails_iff (x : Extractor) (feed : Feed τ) (service : Service σ) (query : Query) (fed : τ)
    (state : σ) :
    let fetched := (feed query fed).1.1
    let result := (x.run feed service query fed state).1.result
    (∀ failure, result = .error failure ↔ x.Fails service state fetched failure) ∧
      ((∃ track, result = .ok track) ↔ ∀ failure, ¬ x.Fails service state fetched failure) ∧
      ∀ failure, result = .error failure →
        (∃ error, failure = .transport error) ∨ (failure = .emptyResult ∧ fetched = .ok []) ∨
          ∃ size, messageLimit < size ∧ failure = .payloadTooLarge size messageLimit := by
  intro fetched result
  obtain ⟨ends, -⟩ := x.run_ends feed service query fed state
  have law : ∀ failure, result = .error failure ↔ x.Fails service state fetched failure := fun failure =>
    ⟨ends.fails, ends.result_of_fails⟩
  refine ⟨law, ?_, fun failure failed => (ends.fails failed).kind⟩
  cases outcome : result with
  | ok track =>
    refine ⟨fun _ failure fails => ?_, fun _ => ⟨track, rfl⟩⟩
    cases outcome.symm.trans ((law failure).mpr fails)
  | error failure =>
    refine ⟨nofun, fun none => ?_⟩
    exact absurd ((law failure).mp outcome) (none failure)

end Extractor

end SatelliteTrack
