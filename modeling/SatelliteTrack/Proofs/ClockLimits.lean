import SatelliteTrack.Proofs.Execution

/-!
# Waits whose end the clock cannot show

The time for an answer may be any number of seconds of sixty-four bits, and the clock keeps its seconds
in sixty-three. The ends of the two waits of a call are reckoned without a look at that. When the clock
can show both, the call ends as calls do (`Session.Settles`): with an answer, a refusal of one, a fault of
the connection or the timeout, not later than the deadline, and at no round of the wait is there less left
than nothing or more than was given (`Session.Timely`). When it cannot, the program is aborted in the
middle of the call; at the first end this is before the call has come to the broker
(`BrokerClient.service_of_after?_eq_none`).

**The law** is `Program.stopped_iff`: an execution is aborted for a call whose end the clock cannot show,
and for nothing else. Room for all waits is enough to be safe from it. A time for the answer beyond the
last second of the clock, as in `Program.stopped_with_longest_wait`, stops every execution that asks for a
position.
-/

namespace SatelliteTrack

variable {σ : Type}

/-! ## Readings of the clock -/

theorem Duration.toNanoseconds_ofSeconds (n : Nat) :
    (ofSeconds n).toNanoseconds = n * secondNanoseconds := by
  simp only [toNanoseconds, ofSeconds, Nat.add_zero]

namespace Instant

/-- No reading is early enough for more seconds than the clock keeps. -/
theorem after?_eq_none_of_lastSecond_lt (now : Instant) {n : Nat} (long : lastSecond < n) :
    now.after? (.ofSeconds n) = none := by
  have positive : 0 < secondNanoseconds := by decide
  rw [← Option.not_isSome_iff_eq_none, isSome_after?_iff, Duration.toNanoseconds_ofSeconds,
    Nat.add_mul_div_right _ _ positive]
  exact Nat.not_le.mpr (Nat.lt_of_lt_of_le long (Nat.le_add_left _ _))

/-- What is left until a reading that has not passed leads just to it. -/
theorem nanoseconds_add_remaining {now later : Instant} (le : now.nanoseconds ≤ later.nanoseconds) :
    now.nanoseconds + (now.remaining later).toNanoseconds = later.nanoseconds := by
  rw [remaining, Duration.toNanoseconds_ofNanoseconds]
  omega

end Instant

namespace Session

variable {topics : Topics} {timeout : Duration} {now later deadline : Instant}
  {events left : List TimedEvent}

/-! ## The rounds of a wait -/

/-- A wait that looks at the clock at one reading looks at it again at another, with those events to come:
the events between came in time and decided nothing. -/
inductive ComesTo (topics : Topics) (deadline : Instant) :
    Instant → List TimedEvent → Instant → List TimedEvent → Prop
  | here {now : Instant} {events : List TimedEvent} : ComesTo topics deadline now events now events
  | round {now later : Instant} {e : TimedEvent} {rest left : List TimedEvent}
      (waits : now.nanoseconds < deadline.nanoseconds)
      (punctual : (arrival now e).nanoseconds ≤ deadline.nanoseconds)
      (passed : passesOver topics e.event = true)
      (next : ComesTo topics deadline (arrival now e) rest later left) :
      ComesTo topics deadline now (e :: rest) later left

/-- One round: an event in time that decides nothing. -/
theorem await_round {e : TimedEvent} (rest : List TimedEvent)
    (waits : now.nanoseconds < deadline.nanoseconds)
    (punctual : (arrival now e).nanoseconds ≤ deadline.nanoseconds)
    (passed : passesOver topics e.event = true) :
    await topics timeout deadline now (e :: rest) =
      await topics timeout deadline (arrival now e) rest := by
  have waiting : ¬ (now.remaining deadline).isZero = true := by
    rw [Instant.isZero_remaining]
    omega
  rw [await, if_neg waiting, if_neg (Nat.not_lt.mpr punctual), (decide?_eq_none_iff topics _).mpr passed]

/-- From each round on, the wait is the rest of the whole. -/
theorem ComesTo.await_eq (h : ComesTo topics deadline now events later left) :
    await topics timeout deadline now events = await topics timeout deadline later left := by
  induction h with
  | here => rfl
  | round waits punctual passed _ ih => rw [await_round _ waits punctual passed, ih]

/-- The rounds lie between the beginning and the deadline. -/
theorem ComesTo.between (h : ComesTo topics deadline now events later left)
    (begun : now.nanoseconds ≤ deadline.nanoseconds) :
    now.nanoseconds ≤ later.nanoseconds ∧ later.nanoseconds ≤ deadline.nanoseconds := by
  induction h with
  | here => exact ⟨Nat.le_refl _, begun⟩
  | round _ punctual _ _ ih =>
    obtain ⟨onwards, inTime⟩ := ih punctual
    exact ⟨Nat.le_trans (Nat.le_add_right _ _) onwards, inTime⟩

/-! ## The ends of a call -/

/-- How a call ends that the clock does not stop. -/
inductive Settles (call : Call) : Answer → Prop
  | answered (json : Json) : Settles call (.ok json)
  /-- The answer is no JSON. -/
  | garbled (fault : Json.Fault) : Settles call (.error (.response (.answer fault)))
  | broken (reason : BrokerFault) : Settles call (.error (.broker reason))
  /-- The time that was given has passed. -/
  | timedOut : Settles call (.error (.timeout call.timeout))

theorem Decides.settles {e : BrokerEvent} {answer : Answer} (h : Decides topics e answer)
    (call : Call) : Settles call answer := by
  cases h with
  | answered => exact .answered _
  | garbled => exact .garbled _
  | broken => exact .broken _

theorem Settles.ne_clockOverflow {call : Call} {answer : Answer} (h : Settles call answer) :
    answer ≠ .error .clockOverflow := by
  cases h with
  | answered => nofun
  | garbled => nofun
  | broken => nofun
  | timedOut => nofun

/-- A wait for the time of a call ends in one of these ways. -/
theorem settles_await (call : Call) (topics : Topics) (deadline now : Instant)
    (events : List TimedEvent) : Settles call (await topics call.timeout deadline now events).1 := by
  induction events generalizing now with
  | nil => exact .timedOut
  | cons e rest ih =>
    rw [await]
    split
    · exact .timedOut
    · split
      · exact .timedOut
      · cases decided : decide? topics e.event with
        | none => exact ih _
        | some answer => exact ((decide?_eq_some_iff topics e.event answer).mp decided).settles call

/-- A wait that the clock can show the end of: from each of its rounds on it is the same wait, for what is
left of the time that was given, and it ends in time. -/
structure Timely (call : Call) (now deadline : Instant) (events : List TimedEvent) : Prop where
  reckoned : deadline.nanoseconds = now.nanoseconds + call.timeout.toNanoseconds
  same : ∀ later left, ComesTo call.topics deadline now events later left →
    roundTrip call now events = await call.topics call.timeout deadline later left
  remains : ∀ later left, ComesTo call.topics deadline now events later left →
    later.nanoseconds + (later.remaining deadline).toNanoseconds = deadline.nanoseconds ∧
      (later.remaining deadline).toNanoseconds ≤ call.timeout.toNanoseconds
  settles : Settles call (roundTrip call now events).1
  inTime : (roundTrip call now events).2.nanoseconds ≤ deadline.nanoseconds

theorem timely {call : Call} (accepted : hasWildcard call.topics.request = false)
    (reckoned : now.after? call.timeout = some deadline) (events : List TimedEvent) :
    Timely call now deadline events where
  reckoned := Instant.nanoseconds_of_after? reckoned
  same later left round := by rw [roundTrip_eq_await accepted reckoned, round.await_eq]
  remains later left round := by
    have ends := Instant.nanoseconds_of_after? reckoned
    have begun : now.nanoseconds ≤ deadline.nanoseconds := by omega
    obtain ⟨onwards, inTime⟩ := round.between begun
    have rest := Instant.nanoseconds_add_remaining inTime
    exact ⟨rest, by omega⟩
  settles := by
    rw [roundTrip_eq_await accepted reckoned]
    exact settles_await call _ _ _ _
  inTime := (BrokerClient.roundTrip_of_after? reckoned events).1

/-- A farewell whose end cannot be shown stops the call, whatever its outcome was. -/
theorem finish_of_not_shown {outcome : Answer × Instant} (beyond : outcome.2.after? farewellSpan = none) :
    finish outcome = .error .clockOverflow := by
  obtain ⟨answer, ends⟩ := outcome
  unfold finish
  split
  next => rfl
  next same =>
    obtain ⟨rfl, rfl⟩ := Prod.ext_iff.mp same
    rw [beyond]

end Session

/-! ## One call -/

namespace BrokerClient

variable {client : BrokerClient} {call : Call} {peer : BrokerPeer}

/-- A call is stopped just when the clock cannot show one of its two ends. -/
theorem service_eq_clockOverflow_iff (accepted : Session.hasWildcard call.topics.request = false) :
    (client.service call peer).1 = .error .clockOverflow ↔ ¬ client.Clocked call peer := by
  refine ⟨fun stopped clocked => clocked.ne_clockOverflow stopped, fun late => ?_⟩
  rw [(service_eq client call peer).1]
  cases reckoned : peer.clock.after? call.timeout with
  | none =>
    rw [Session.roundTrip, accepted, reckoned]
    rfl
  | some deadline =>
    refine Session.finish_of_not_shown (Option.not_isSome_iff_eq_none.mp fun shown => late ⟨?_, ?_⟩)
    · rw [reckoned]
      rfl
    · rw [(service_eq client call peer).2]
      exact shown

/-- If it is the first of the two ends, the call does not come to the broker. -/
theorem service_of_after?_eq_none (accepted : Session.hasWildcard call.topics.request = false)
    (beyond : peer.clock.after? call.timeout = none) :
    client.service call peer = (.error .clockOverflow, peer) := by
  have stopped : isStopped call peer.clock = true := by
    rw [isStopped, accepted, beyond]
    rfl
  have unseen : (client.connect call peer).2 = peer := by
    unfold connect
    split
    · rfl
    · rfl
    · exact if_pos stopped
  have ends (events : List TimedEvent) :
      Session.roundTrip call peer.clock events = (.error .clockOverflow, peer.clock) := by
    rw [Session.roundTrip, accepted, beyond]
    rfl
  simp only [service, unseen, ends]
  rfl

/-- Otherwise its wait is timely, and the farewell leaves the outcome as it is. -/
theorem Clocked.timely (h : client.Clocked call peer)
    (accepted : Session.hasWildcard call.topics.request = false) : ∃ deadline,
      Session.Timely call peer.clock deadline (client.connect call peer).1 ∧
      (client.service call peer).1 =
        (Session.roundTrip call peer.clock (client.connect call peer).1).1 := by
  obtain ⟨deadline, reckoned⟩ := Option.isSome_iff_exists.mp h.answer
  have timely := Session.timely accepted reckoned (client.connect call peer).1
  have farewell := h.farewell
  rw [(service_eq client call peer).2] at farewell
  refine ⟨deadline, timely, ?_⟩
  rw [(service_eq client call peer).1]
  exact Session.finish_of_shown timely.settles.ne_clockOverflow farewell

end BrokerClient

/-! ## The calls of a run -/

namespace Extractor

variable {x : Extractor} {service : Service σ} {state : σ}

theorem callsOf_of_asks {m : Message} (h : (m.isRaw && m.fits) = true) : x.callsOf m = [x.call m] :=
  if_pos h

theorem callsOf_of_not_asks {m : Message} (h : (m.isRaw && m.fits) = false) : x.callsOf m = [] := by
  simp only [callsOf, h, Bool.false_eq_true, ↓reduceIte]

/-- The answers to messages that give something are taken. -/
theorem Gathers.refusal?_eq_none {messages : List Message} {cs : List Contribution}
    (h : x.Gathers service state messages cs) :
    ∀ answer ∈ service.answers state (messages.flatMap x.callsOf), answer.refusal? = none := by
  induction h with
  | nil => exact fun _ mem => absurd mem List.not_mem_nil
  | @cons state m c ms cs head tail ih =>
    rw [List.flatMap_cons, Service.answers_append]
    refine List.forall_mem_append.mpr ⟨?_, ih⟩
    cases asks : m.isRaw && m.fits with
    | false =>
      rw [callsOf_of_not_asks asks]
      exact fun _ mem => absurd mem List.not_mem_nil
    | true =>
      have passed := Message.failure?_of_contribution head (Bool.and_eq_true_iff.mp asks).1
      rw [callsOf_of_asks asks]
      exact List.forall_mem_singleton.mpr ((m.failure?_eq_none_iff _).mp passed).2

/-- An answer that is refused is the last one, and is what the run fails for. -/
theorem Ends.result_of_refused {fetched : Fetched} {run : Run σ} (h : x.Ends service state fetched run)
    {k : Nat} {answer : Answer} {error : TransportError}
    (given : (service.answers state run.calls)[k]? = some answer)
    (refused : answer.refusal? = some error) :
    run.result = .error (.transport error) ∧ run.calls.length = k + 1 := by
  have taken {messages : List Message} {cs : List Contribution}
      (gathers : x.Gathers service state messages cs) :
      (service.answers state (messages.flatMap x.callsOf))[k]? ≠ some answer := by
    intro there
    rw [gathers.refusal?_eq_none answer (List.mem_of_getElem? there)] at refused
    cases refused
  cases h with
  | unfetched _ calls => rw [calls] at given; cases given
  | empty _ calls => rw [calls] at given; cases given
  | finished _ gathers _ calls => exact absurd (calls ▸ given) (taken gathers)
  | @stopped before rest m cs failure _ gathers failed result calls =>
    rw [m.contribution_eq_error_iff] at failed
    rw [List.flatMap_append, List.flatMap_singleton] at calls
    rw [calls, Service.answers_append, List.getElem?_append] at given
    split at given
    · exact absurd given (taken gathers)
    next behind =>
      rw [Service.length_answers] at behind given
      cases asks : m.isRaw && m.fits with
      | false =>
        rw [callsOf_of_not_asks asks] at given
        cases given
      | true =>
        rw [callsOf_of_asks asks] at calls given
        obtain ⟨inside, -⟩ := List.getElem?_eq_some_iff.mp given
        rw [Service.length_answers, List.length_singleton] at inside
        have last : k = (before.flatMap x.callsOf).length := by omega
        rw [last, Nat.sub_self] at given
        cases Option.some.inj given
        rcases (m.failure?_eq_some_iff _ failure).mp failed.2 with ⟨big, -⟩ | ⟨-, error', refused', rfl⟩
        · rw [big, Bool.and_false] at asks
          cases asks
        · cases refused.symm.trans refused'
          exact ⟨result, by rw [calls, last, List.length_append, List.length_singleton]⟩

/-- There are no calls for messages without raw measurements. -/
theorem flatMap_callsOf_of_find?_eq_none {messages : List Message}
    (none : messages.find? Message.isRaw = none) : messages.flatMap x.callsOf = [] := by
  rw [List.flatMap_eq_nil_iff]
  intro m mem
  have decoded := List.find?_eq_none.mp none m mem
  rw [Bool.not_eq_true] at decoded
  exact callsOf_of_not_asks (by rw [decoded, Bool.false_and])

/-- Among messages that give something, the first with raw measurements is called for. -/
theorem Gathers.calls_of_find? {messages : List Message} {cs : List Contribution}
    (h : x.Gathers service state messages cs) {m : Message}
    (first : messages.find? Message.isRaw = some m) :
    m.fits = true ∧ messages.flatMap x.callsOf ≠ [] := by
  have mem := List.mem_of_find?_eq_some first
  have raw := List.find?_some first
  obtain ⟨i, place⟩ := List.mem_iff_getElem?.mp mem
  obtain ⟨c, -, given⟩ := h.getElem? place
  obtain ⟨fits, -⟩ := (m.failure?_eq_none_iff _).mp (Message.failure?_of_contribution given raw)
  refine ⟨fits, fun none => ?_⟩
  have own := List.flatMap_eq_nil_iff.mp none m mem
  rw [callsOf_of_asks (by rw [raw, fits, Bool.and_self])] at own
  cases own

/-- A run asks for a position just when the envelope of the first message with raw measurements fits. -/
theorem Ends.calls_ne_nil_iff {fetched : Fetched} {run : Run σ} (h : x.Ends service state fetched run) :
    run.calls ≠ [] ↔ ∃ messages m, fetched = .ok messages ∧ messages.find? Message.isRaw = some m ∧
      m.fits = true := by
  cases h with
  | unfetched _ calls => simp [calls]
  | empty _ calls => simp [calls]
  | @finished messages cs _ _ gathers _ calls =>
    rw [calls]
    constructor
    · intro called
      cases first : messages.find? Message.isRaw with
      | none => exact absurd (flatMap_callsOf_of_find?_eq_none first) called
      | some m => exact ⟨messages, m, rfl, first, (gathers.calls_of_find? first).1⟩
    · rintro ⟨_, m, ⟨⟩, first, -⟩
      exact (gathers.calls_of_find? first).2
  | @stopped before rest m cs failure _ gathers failed _ calls =>
    obtain ⟨raw, -⟩ := (m.contribution_eq_error_iff _ failure).mp failed
    rw [calls, List.flatMap_append, List.flatMap_singleton]
    cases first : before.find? Message.isRaw with
    | some n =>
      obtain ⟨fits, called⟩ := gathers.calls_of_find? first
      refine iff_of_true (List.append_ne_nil_of_left_ne_nil called _) ⟨_, n, rfl, ?_, fits⟩
      rw [List.find?_append, first, Option.some_or]
    | none =>
      have own : (before ++ m :: rest).find? Message.isRaw = some m := by
        rw [List.find?_append, first, Option.none_or, List.find?_cons_of_pos raw]
      rw [flatMap_callsOf_of_find?_eq_none first, List.nil_append, callsOf, raw, Bool.true_and]
      constructor
      · intro called
        refine ⟨_, m, rfl, own, ?_⟩
        cases fits : m.fits with
        | true => rfl
        | false => simp [fits] at called
      · rintro ⟨_, n, ⟨⟩, there, fits⟩
        cases own.symm.trans there
        simp [fits]

end Extractor

/-! ## Executions -/

theorem seconds?_lt {text : String} {n : Nat} (h : seconds? text = some n) : n < 2 ^ 64 := by
  simp only [seconds?, Option.ite_none_left_eq_some, Option.bind_eq_some_iff,
    Option.ite_none_right_eq_some, Option.some.injEq] at h
  obtain ⟨-, whole, -, small, rfl⟩ := h
  omega

namespace Program

variable {settings : Settings} {world : World}

/-- The time for an answer is a number of seconds of sixty-four bits. -/
theorem responseTimeout_lt {words : List String} {environment : List (String × String)}
    (accepted : settingsOf words environment = .ok settings) : settings.responseTimeout < 2 ^ 64 := by
  unfold settingsOf at accepted
  split at accepted
  · cases accepted
  split at accepted
  · cases accepted
  next given =>
    cases accepted
    simp only [CommandLine.settings?, Option.bind_eq_bind, Option.bind_eq_some_iff] at given
    -- the ten values before it have no part in this
    obtain ⟨_, -, _, -, _, -, _, -, _, -, _, -, _, -, _, -, _, -, _, -, n, ⟨text, -, read⟩, whole⟩ := given
    cases whole
    exact seconds?_lt read

/-- The run of the settings ends as runs do. -/
theorem extraction_ends (settings : Settings) (world : World) :
    (extractor settings).Ends (brokerClient settings).service world.broker
      ((feedClient settings).feed (query settings) world.feed).1.1 (extraction settings world).1 :=
  ((extractor settings).run_ends (feedClient settings).feed (brokerClient settings).service
    (query settings) world.feed world.broker).1

/-- Requests are published on a topic without a wildcard, whatever the device is. -/
theorem hasWildcard_of_mem_calls {call : Call} (h : call ∈ (extraction settings world).1.calls) :
    Session.hasWildcard call.topics.request = false := by
  obtain ⟨m, -, -, rfl⟩ := (extraction_ends settings world).exists_caller h
  show Session.hasWildcard "CloudLocate/GNSS/request" = false
  decide

/-- A call whose ends the clock cannot show is the last one of its run, which fails for it. -/
theorem result_of_not_clocked {k : Nat} {call : Call}
    (called : (extraction settings world).1.calls[k]? = some call) :
    let client := brokerClient settings
    let peer := client.service.after world.broker ((extraction settings world).1.calls.take k)
    ¬ client.Clocked call peer → (client.service call peer).1 = .error .clockOverflow ∧
      (extraction settings world).1.result = .error (.transport .clockOverflow) ∧
      (extraction settings world).1.calls.length = k + 1 := by
  intro client peer late
  have accepted := hasWildcard_of_mem_calls (List.mem_of_getElem? called)
  have stopped := (BrokerClient.service_eq_clockOverflow_iff accepted).mpr late
  have given : (client.service.answers world.broker (extraction settings world).1.calls)[k]? =
      some (.error .clockOverflow) := by
    rw [Service.getElem?_answers, called, Option.map_some, ← stopped]
  exact ⟨stopped, (extraction_ends settings world).result_of_refused given rfl⟩

/-- The clock is why a run fails if and only if there is such a call. -/
theorem result_eq_clockOverflow_iff : (extraction settings world).1.result =
    .error (.transport .clockOverflow) ↔ ¬ Clocked settings world := by
  constructor
  · intro stopped clocked
    cases clocked.ending stopped
  · intro late
    simp only [Clocked, not_forall] at late
    obtain ⟨k, call, called, late⟩ := late
    exact (result_of_not_clocked called late).2.1

/-- When more seconds are given for an answer than the clock keeps, the first call is one. -/
theorem not_clocked_iff_of_long (long : Instant.lastSecond < settings.responseTimeout) :
    ¬ Clocked settings world ↔ (extraction settings world).1.calls ≠ [] := by
  constructor
  · rintro late none
    refine late fun k call called => ?_
    rw [none] at called
    cases called
  · intro some clocked
    obtain ⟨call, rest, calls⟩ := List.exists_cons_of_ne_nil some
    have first : (extraction settings world).1.calls[0]? = .some call := by
      rw [calls, List.getElem?_cons_zero]
    have shown := (clocked 0 call first).answer
    rw [timeout_of_mem_calls (List.mem_of_getElem? first),
      Instant.after?_eq_none_of_lastSecond_lt _ long] at shown
    cases shown

/-- An execution is aborted for nothing else. -/
theorem runWith_ending_eq_iff : (runWith settings world).ending = .aborted ↔
    (extraction settings world).1.result = .error (.transport .clockOverflow) := by
  unfold runWith
  dsimp only
  split
  next failure failed =>
    unfold failureEnding
    split
    · exact iff_of_true rfl failed
    · next other =>
      refine iff_of_false nofun fun stopped => ?_
      cases failed.symm.trans stopped
      exact other rfl
  next track done =>
    have kept : (extraction settings world).1.result ≠ .error (.transport .clockOverflow) := by
      rw [done]
      nofun
    split <;> exact iff_of_false nofun kept

/-- **The clock stops an execution just when it cannot show the end of a wait**, and this leaves the disk
alone. The call with that wait is the last one; every other call is settled in time. Whatever the broker
does, room for all waits keeps an execution safe, and more seconds than the clock keeps stop it at its
first call. -/
theorem stopped_iff {words : List String} {environment : List (String × String)}
    {settings : Settings} (accepted : settingsOf words environment = .ok settings) (world : World) :
    let client := brokerClient settings
    let calls := (extraction settings world).1.calls
    let fetched := ((feedClient settings).feed (query settings) world.feed).1.1
    let left := execute words environment world
    (left.ending = .aborted ↔ ¬ Clocked settings world) ∧
    (left.ending = .aborted → left.world.disk = world.disk) ∧
    (∀ k call, calls[k]? = some call →
      let peer := client.service.after world.broker (calls.take k)
      call.timeout = .ofSeconds settings.responseTimeout ∧
      (client.Clocked call peer → ∃ deadline,
        Session.Timely call peer.clock deadline (client.connect call peer).1 ∧
        (client.service call peer).1 =
          (Session.roundTrip call peer.clock (client.connect call peer).1).1) ∧
      (¬ client.Clocked call peer →
        (client.service call peer).1 = .error .clockOverflow ∧ calls.length = k + 1 ∧
          left.ending = .aborted)) ∧
    (∀ n, calls.length ≤ n → (world.broker.clock.nanoseconds +
        n * (Duration.ofSeconds settings.responseTimeout).toNanoseconds +
        farewellSpan.toNanoseconds) / secondNanoseconds ≤ Instant.lastSecond → left.ending ≠ .aborted) ∧
    settings.responseTimeout < 2 ^ 64 ∧
    (Instant.lastSecond < settings.responseTimeout → (left.ending = .aborted ↔
      ∃ messages m, fetched = .ok messages ∧ messages.find? Message.isRaw = some m ∧
        m.fits = true)) := by
  intro client calls fetched left
  have executed : left = runWith settings world := by
    show execute words environment world = _
    rw [execute, accepted]
  have ending : left.ending = .aborted ↔ ¬ Clocked settings world := by
    rw [executed, runWith_ending_eq_iff, result_eq_clockOverflow_iff]
  refine ⟨ending, ?disk, ?calls, ?room, responseTimeout_lt accepted, ?long⟩
  case disk =>
    intro stopped
    rw [executed] at stopped ⊢
    have result := runWith_ending_eq_iff.mp stopped
    unfold runWith
    simp only [result]
  case calls =>
    intro k call called peer
    refine ⟨timeout_of_mem_calls (List.mem_of_getElem? called), fun clocked =>
      clocked.timely (hasWildcard_of_mem_calls (List.mem_of_getElem? called)), fun late => ?_⟩
    obtain ⟨stopped, result, last⟩ := result_of_not_clocked called late
    exact ⟨stopped, last, ending.mpr (result_eq_clockOverflow_iff.mp result)⟩
  case room =>
    intro n few room stopped
    exact ending.mp stopped (clocked_of_room few room)
  case long =>
    intro long
    rw [ending, ← (extraction_ends settings world).calls_ne_nil_iff, not_clocked_iff_of_long long]

/-! Two command lines on one world, in which a broker answers at once: one leaves a minute for the answer,
the other all the seconds that it can. -/

def longestWords : List String := sampleWords ++ ["--response-timeout", "18446744073709551615"]

def longestSettings : Settings := { sampleSettings with responseTimeout := 18446744073709551615 }

/-- The only message holds raw measurements, and a broker answers with a position. -/
def worldWithBroker : World :=
  { worldWithoutBroker with
    broker.scripts := [
      { replies := [{ topic := (Topics.ofDevice "device").response
                      payload := Text.utf8 "\x7b\"Lat\": 46.5, \"Lon\": 6.5\x7d" }] }] }

/-- The message service sends the same messages to both. -/
theorem find?_worldWithBroker (settings : Settings)
    (same : feedClient settings = feedClient sampleSettings) (asked : query settings = query sampleSettings) :
    ∃ messages m,
      ((feedClient settings).feed (query settings) worldWithBroker.feed).1.1 = .ok messages ∧
      messages.find? Message.isRaw = some m ∧ m.fits = true := by
  have raw : sampleRaw.isRaw = true := rfl
  have fits : sampleRaw.fits = true := by cbv
  refine ⟨[sampleRaw], sampleRaw, ?_, List.find?_cons_of_pos raw, fits⟩
  rw [same, asked]
  exact fetched_worldWithoutBroker

/-- Of a minute the clock can show the end, and the call is settled in time. -/
theorem stopped_iff_minute :
    settingsOf sampleWords sampleEnvironment = .ok sampleSettings ∧
    (execute sampleWords sampleEnvironment worldWithBroker).ending ≠ .aborted ∧
    ∃ call deadline, (extraction sampleSettings worldWithBroker).1.calls[0]? = some call ∧
      Session.Timely call ⟨0⟩ deadline
        ((brokerClient sampleSettings).connect call worldWithBroker.broker).1 := by
  have accepted : settingsOf sampleWords sampleEnvironment = .ok sampleSettings := by cbv
  obtain ⟨ending, -, settled, room, -⟩ := stopped_iff accepted worldWithBroker
  have ends := extraction_ends sampleSettings worldWithBroker
  have asked := ends.calls_ne_nil_iff.mpr (find?_worldWithBroker sampleSettings rfl rfl)
  rw [show ((feedClient sampleSettings).feed (query sampleSettings) worldWithBroker.feed).1.1 =
    .ok [sampleRaw] from fetched_worldWithoutBroker] at ends
  have calm := room 1 ends.length_calls_le (by decide)
  obtain ⟨call, rest, calls⟩ := List.exists_cons_of_ne_nil asked
  have first : (extraction sampleSettings worldWithBroker).1.calls[0]? = some call := by
    rw [calls, List.getElem?_cons_zero]
  have clocked := Classical.not_not.mp fun late => calm (ending.mpr late)
  obtain ⟨deadline, timely, -⟩ := (settled 0 call first).2.1 (clocked 0 call first)
  exact ⟨accepted, calm, call, deadline, first, timely⟩

/-- Of all the seconds that can be given it cannot, although the broker answers at once. -/
theorem stopped_with_longest_wait :
    settingsOf longestWords sampleEnvironment = .ok longestSettings ∧
    (execute longestWords sampleEnvironment worldWithBroker).ending = .aborted := by
  have accepted : settingsOf longestWords sampleEnvironment = .ok longestSettings := by decide +kernel
  have long : Instant.lastSecond < longestSettings.responseTimeout := by decide
  have asked := (extraction_ends longestSettings worldWithBroker).calls_ne_nil_iff.mpr
    (find?_worldWithBroker longestSettings rfl rfl)
  have late := (not_clocked_iff_of_long long).mpr asked
  rw [execute, accepted]
  exact ⟨rfl, runWith_ending_eq_iff.mpr (result_eq_clockOverflow_iff.mpr late)⟩

end Program

end SatelliteTrack
