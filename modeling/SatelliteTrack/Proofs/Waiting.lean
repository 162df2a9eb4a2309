import Mathlib.Algebra.GroupWithZero.Nat
import SatelliteTrack.Broker.Session

/-!
# What decides a wait

A call waits until its deadline, and events come one after another. Those that are passed over
(`Session.passesOver`) only let the clock run on, so the first of the others decides alone what becomes
of the call; `Decides` says what each of them brings about. If none comes in time, the deadline decides.

`roundTrip_decided_by_first` is the law. It rests on three steps of `await`: over events that are passed
over, at an event that decides, and at the deadline. What comes after the decision, or after the deadline,
is arbitrary in all of them. There must be a deadline for this: the law is about calls whose end the clock
can show, since any other stops the program before an event is looked at.
-/

namespace SatelliteTrack

/-! ## Readings of the clock -/

theorem Duration.isZero_ofNanoseconds (n : Nat) : (Duration.ofNanoseconds n).isZero = true ↔ n = 0 := by
  simp only [isZero, ofNanoseconds, secondNanoseconds, Bool.and_eq_true, beq_iff_eq]
  omega

namespace Instant

/-- Nothing is left until a reading that has come. -/
theorem isZero_remaining (now later : Instant) :
    (now.remaining later).isZero = true ↔ later.nanoseconds ≤ now.nanoseconds := by
  rw [remaining, Duration.isZero_ofNanoseconds]
  omega

theorem nanoseconds_of_after? {now later : Instant} {span : Duration}
    (reckoned : now.after? span = some later) :
    later.nanoseconds = now.nanoseconds + span.toNanoseconds := by
  simp only [after?, Option.ite_none_right_eq_some, Option.some.injEq] at reckoned
  rw [← reckoned.2]

theorem isSome_after?_iff (now : Instant) (span : Duration) : (now.after? span).isSome = true ↔
    (now.nanoseconds + span.toNanoseconds) / secondNanoseconds ≤ lastSecond := by
  simp only [after?, Option.isSome_ite]

/-- What the clock can show a span after one reading, it can show after an earlier one. -/
theorem isSome_after?_of_le {now later : Instant} (span : Duration)
    (earlier : now.nanoseconds ≤ later.nanoseconds) (shown : (later.after? span).isSome) :
    (now.after? span).isSome := by
  rw [isSome_after?_iff] at shown ⊢
  exact Nat.le_trans (Nat.div_le_div_right (Nat.add_le_add_right earlier _)) shown

end Instant

namespace Session

/-! ## Events -/

/-- The event decides nothing for a call on these topics: it has no content for the client, or it is a
publication on another topic than the one for responses. -/
def passesOver (topics : Topics) : BrokerEvent → Bool
  | .publication p => p.topic ≠ topics.response
  | .fault _ => false
  | .notice => true

/-- What an event brings about for a call on these topics. -/
inductive Decides (topics : Topics) : BrokerEvent → Answer → Prop
  /-- A publication on the topic for responses is the answer. -/
  | answered {p : Publication} {json : Json} (own : p.topic = topics.response)
      (read : Json.ofBytes p.payload = .ok json) : Decides topics (.publication p) (.ok json)
  /-- It is refused if it is no JSON. -/
  | garbled {p : Publication} {fault : Json.Fault} (own : p.topic = topics.response)
      (read : Json.ofBytes p.payload = .error fault) :
      Decides topics (.publication p) (.error (.response (.answer fault)))
  /-- The connection is broken or closed. -/
  | broken (reason : BrokerFault) : Decides topics (.fault reason) (.error (.broker reason))

theorem decide?_eq_none_iff (topics : Topics) (e : BrokerEvent) :
    decide? topics e = none ↔ passesOver topics e = true := by
  cases e with
  | publication p => simp only [decide?, passesOver, ite_eq_right_iff, reduceCtorEq, imp_false,
      decide_eq_true_eq, ne_eq]
  | fault reason => simp only [decide?, passesOver, reduceCtorEq, Bool.false_eq_true]
  | notice => simp only [decide?, passesOver]

theorem decide?_eq_some_iff (topics : Topics) (e : BrokerEvent) (answer : Answer) :
    decide? topics e = some answer ↔ Decides topics e answer := by
  constructor
  · intro decided
    cases e with
    | publication p =>
      simp only [decide?, Option.ite_none_right_eq_some, Option.some.injEq, answerOf] at decided
      obtain ⟨own, rfl⟩ := decided
      cases read : Json.ofBytes p.payload with
      | ok json => exact .answered own read
      | error fault => exact .garbled own read
    | fault reason =>
      cases decided
      exact .broken reason
    | notice => cases decided
  · intro decides
    cases decides with
    | answered own read => simp only [decide?, own, answerOf, read, ↓reduceIte]
    | garbled own read => simp only [decide?, own, answerOf, read, ↓reduceIte]
    | broken reason => rfl

/-- An event that is not passed over brings something about, and one thing only. -/
theorem exists_decides (topics : Topics) (e : BrokerEvent) (kept : passesOver topics e = false) :
    ∃ answer, Decides topics e answer ∧ ∀ other, Decides topics e other → other = answer := by
  cases decided : decide? topics e with
  | none =>
    rw [(decide?_eq_none_iff topics e).mp decided] at kept
    cases kept
  | some answer =>
    refine ⟨answer, (decide?_eq_some_iff topics e answer).mp decided, fun other decides => ?_⟩
    rw [(decide?_eq_some_iff topics e other).mpr decides] at decided
    exact Option.some.inj decided

/-- No event stops the program. -/
theorem Decides.ne_clockOverflow {topics : Topics} {e : BrokerEvent} {answer : Answer}
    (decides : Decides topics e answer) : answer ≠ .error .clockOverflow := by
  cases decides with
  | answered => nofun
  | garbled => nofun
  | broken => nofun

/-- The events that are not passed over, without their times. -/
def decisive (topics : Topics) (events : List TimedEvent) : List BrokerEvent :=
  (events.map TimedEvent.event).filter fun e => !passesOver topics e

/-! ## Steps of a wait -/

/-- The nanoseconds that pass until the last of some events has come. -/
def elapsed (events : List TimedEvent) : Nat := (events.map fun e => e.delay.toNanoseconds).sum

theorem elapsed_nil : elapsed [] = 0 := rfl

theorem elapsed_cons (e : TimedEvent) (rest : List TimedEvent) :
    elapsed (e :: rest) = e.delay.toNanoseconds + elapsed rest := by
  rw [elapsed, List.map_cons, List.sum_cons, elapsed]

theorem elapsed_append (first second : List TimedEvent) :
    elapsed (first ++ second) = elapsed first + elapsed second := by
  simp only [elapsed, List.map_append, List.sum_append]

theorem nanoseconds_arrival (now : Instant) (e : TimedEvent) :
    (arrival now e).nanoseconds = now.nanoseconds + e.delay.toNanoseconds := rfl

/-- Some events come before the deadline, and what follows them comes after it, if anything does. So the
deadline lies ahead, even if there are no such events. -/
structure InTime (now deadline : Instant) (events later : List TimedEvent) : Prop where
  before : now.nanoseconds + elapsed events < deadline.nanoseconds
  after : ∀ e ∈ later.head?, deadline.nanoseconds < now.nanoseconds + elapsed (events ++ [e])

variable {topics : Topics} {timeout : Duration} {now deadline : Instant}

/-- Events that are passed over let the clock run on, and nothing else. -/
theorem await_append_of_passesOver {events : List TimedEvent} (rest : List TimedEvent)
    (inTime : now.nanoseconds + elapsed events < deadline.nanoseconds)
    (passed : ∀ e ∈ events, passesOver topics e.event = true) :
    await topics timeout deadline now (events ++ rest) =
      await topics timeout deadline ⟨now.nanoseconds + elapsed events⟩ rest := by
  induction events generalizing now with
  | nil => rfl
  | cons e events ih =>
    rw [elapsed_cons] at inTime
    have waiting : ¬ (now.remaining deadline).isZero = true := by
      rw [Instant.isZero_remaining]
      omega
    have punctual : ¬ deadline.nanoseconds < (arrival now e).nanoseconds := by
      rw [nanoseconds_arrival]
      omega
    have undecided := (decide?_eq_none_iff topics e.event).mpr (passed e List.mem_cons_self)
    have sooner : (arrival now e).nanoseconds + elapsed events < deadline.nanoseconds := by
      rw [nanoseconds_arrival]
      omega
    rw [List.cons_append, await, if_neg waiting, if_neg punctual, undecided]
    simp only
    rw [ih sooner fun e' mem => passed e' (List.mem_cons_of_mem e mem), elapsed_cons, nanoseconds_arrival,
      Nat.add_assoc]

/-- An event that decides ends the wait when it has come. -/
theorem await_of_decides {e : TimedEvent} {answer : Answer} (rest : List TimedEvent)
    (waiting : now.nanoseconds < deadline.nanoseconds)
    (punctual : now.nanoseconds + e.delay.toNanoseconds ≤ deadline.nanoseconds)
    (decides : Decides topics e.event answer) :
    await topics timeout deadline now (e :: rest) = (answer, arrival now e) := by
  have waits : ¬ (now.remaining deadline).isZero = true := by
    rw [Instant.isZero_remaining]
    omega
  have inTime : ¬ deadline.nanoseconds < (arrival now e).nanoseconds := Nat.not_lt.mpr punctual
  rw [await, if_neg waits, if_neg inTime, (decide?_eq_some_iff topics e.event answer).mpr decides]

/-- Without an event in time the deadline ends the wait. -/
theorem await_of_late {later : List TimedEvent} (waiting : now.nanoseconds < deadline.nanoseconds)
    (late : ∀ e ∈ later.head?, deadline.nanoseconds < now.nanoseconds + e.delay.toNanoseconds) :
    await topics timeout deadline now later = (.error (.timeout timeout), deadline) := by
  have waits : ¬ (now.remaining deadline).isZero = true := by
    rw [Instant.isZero_remaining]
    omega
  cases later with
  | nil => rw [await, if_neg waits]
  | cons e rest =>
    have past : deadline.nanoseconds < (arrival now e).nanoseconds := late e rfl
    rw [await, if_neg waits, if_pos past]

/-- A wait that begins in time ends in time, and the clock does not stop the program meanwhile. -/
theorem await_ends (events : List TimedEvent) (begun : now.nanoseconds ≤ deadline.nanoseconds) :
    (await topics timeout deadline now events).2.nanoseconds ≤ deadline.nanoseconds ∧
      (await topics timeout deadline now events).1 ≠ .error .clockOverflow := by
  induction events generalizing now with
  | nil =>
    rw [await]
    split
    · exact ⟨begun, nofun⟩
    · exact ⟨Nat.le_refl _, nofun⟩
  | cons e rest ih =>
    rw [await]
    split
    · exact ⟨begun, nofun⟩
    · split
      · exact ⟨Nat.le_refl _, nofun⟩
      next punctual =>
        have inTime := Nat.not_lt.mp punctual
        cases decided : decide? topics e.event with
        | none => exact ih inTime
        | some answer =>
          exact ⟨inTime, ((decide?_eq_some_iff topics e.event answer).mp decided).ne_clockOverflow⟩

/-! ## The whole wait -/

/-- Events hold none that decides, or a first one. -/
theorem passed_or_first (topics : Topics) (events : List TimedEvent) :
    (∀ e ∈ events, passesOver topics e.event = true) ∨
      ∃ before e after, events = before ++ e :: after ∧
        (∀ e' ∈ before, passesOver topics e'.event = true) ∧ passesOver topics e.event = false := by
  induction events with
  | nil => exact .inl fun _ mem => absurd mem List.not_mem_nil
  | cons e rest ih =>
    cases passed : passesOver topics e.event with
    | false => exact .inr ⟨[], e, rest, rfl, fun _ mem => absurd mem List.not_mem_nil, passed⟩
    | true =>
      rcases ih with all | ⟨before, first, after, rfl, passedBefore, decides⟩
      · exact .inl (List.forall_mem_cons.mpr ⟨passed, all⟩)
      · exact .inr ⟨e :: before, first, after, rfl, List.forall_mem_cons.mpr ⟨passed, passedBefore⟩,
          decides⟩

theorem decisive_of_passesOver {events : List TimedEvent}
    (passed : ∀ e ∈ events, passesOver topics e.event = true) : decisive topics events = [] := by
  rw [decisive, List.filter_eq_nil_iff]
  intro event mem
  obtain ⟨e, inside, rfl⟩ := List.mem_map.mp mem
  rw [passed e inside]
  decide

/-- The first event that is not passed over is the head of all these. -/
theorem decisive_first {before : List TimedEvent} {e : TimedEvent} (after : List TimedEvent)
    (passed : ∀ e' ∈ before, passesOver topics e'.event = true)
    (kept : passesOver topics e.event = false) :
    decisive topics (before ++ e :: after) = e.event :: decisive topics after := by
  have none := decisive_of_passesOver passed
  rw [decisive] at none
  rw [decisive, List.map_append, List.filter_append, none, List.nil_append, List.map_cons,
    List.filter_cons_of_pos (by rw [kept]; rfl), decisive]

/-- The farewell changes nothing about an outcome, as long as the clock can show its end. -/
theorem finish_of_shown {outcome : Answer × Instant} (kept : outcome.1 ≠ .error .clockOverflow)
    (shown : (outcome.2.after? farewellSpan).isSome) : finish outcome = outcome.1 := by
  obtain ⟨last, shown⟩ := Option.isSome_iff_exists.mp shown
  obtain ⟨answer, ends⟩ := outcome
  unfold finish
  split
  next stopped => exact absurd (Prod.ext_iff.mp stopped).1 kept
  next same =>
    obtain ⟨rfl, rfl⟩ := Prod.ext_iff.mp same
    rw [shown]

section

variable {call : Call} (accepted : hasWildcard call.topics.request = false)
  (reckoned : now.after? call.timeout = some deadline)

include accepted reckoned

theorem roundTrip_eq_await (events : List TimedEvent) :
    roundTrip call now events = await call.topics call.timeout deadline now events := by
  simp only [roundTrip, accepted, reckoned, Bool.false_eq_true, ↓reduceIte]

theorem roundTrip_of_first {before after later : List TimedEvent} {e : TimedEvent} {answer : Answer}
    (inTime : InTime now deadline (before ++ e :: after) later)
    (passed : ∀ e' ∈ before, passesOver call.topics e'.event = true)
    (decides : Decides call.topics e.event answer) :
    (roundTrip call now (before ++ e :: after ++ later)).1 = answer := by
  have within := inTime.before
  rw [elapsed_append, elapsed_cons] at within
  have waiting : now.nanoseconds + elapsed before < deadline.nanoseconds := by omega
  have punctual : now.nanoseconds + elapsed before + e.delay.toNanoseconds ≤ deadline.nanoseconds := by
    omega
  rw [roundTrip_eq_await accepted reckoned, List.append_assoc, List.cons_append,
    await_append_of_passesOver _ waiting passed, await_of_decides _ waiting punctual decides]

theorem roundTrip_of_none {events later : List TimedEvent} (inTime : InTime now deadline events later)
    (passed : ∀ e ∈ events, passesOver call.topics e.event = true) :
    (roundTrip call now (events ++ later)).1 = .error (.timeout call.timeout) := by
  rw [roundTrip_eq_await accepted reckoned, await_append_of_passesOver _ inTime.before passed,
    await_of_late inTime.before]
  intro e next
  have late := inTime.after e next
  rw [elapsed_append, elapsed_cons, elapsed_nil, Nat.add_zero, ← Nat.add_assoc] at late
  exact late

/-- Events that differ in what is passed over have one outcome. -/
theorem roundTrip_congr {events events' later later' : List TimedEvent}
    (inTime : InTime now deadline events later) (inTime' : InTime now deadline events' later')
    (same : decisive call.topics events = decisive call.topics events') :
    (roundTrip call now (events ++ later)).1 = (roundTrip call now (events' ++ later')).1 := by
  rcases passed_or_first call.topics events with all | ⟨before, e, after, rfl, passed, kept⟩ <;>
    rcases passed_or_first call.topics events' with all' | ⟨before', e', after', rfl, passed', kept'⟩
  · rw [roundTrip_of_none accepted reckoned inTime all, roundTrip_of_none accepted reckoned inTime' all']
  · rw [decisive_of_passesOver all, decisive_first after' passed' kept'] at same
    cases same
  · rw [decisive_of_passesOver all', decisive_first after passed kept] at same
    cases same
  · rw [decisive_first after passed kept, decisive_first after' passed' kept'] at same
    obtain ⟨first, -⟩ := List.cons.inj same
    obtain ⟨answer, decides, -⟩ := exists_decides call.topics e.event kept
    rw [roundTrip_of_first accepted reckoned inTime passed decides,
      roundTrip_of_first accepted reckoned inTime' passed' (first ▸ decides)]

/-- The farewell changes nothing about the outcome. -/
theorem finish_roundTrip (events : List TimedEvent) (shown : (deadline.after? farewellSpan).isSome) :
    finish (roundTrip call now events) = (roundTrip call now events).1 := by
  have begun : now.nanoseconds ≤ deadline.nanoseconds := by
    rw [Instant.nanoseconds_of_after? reckoned]
    exact Nat.le_add_right _ _
  rw [roundTrip_eq_await accepted reckoned]
  obtain ⟨ended, kept⟩ := await_ends events begun
  exact finish_of_shown kept (Instant.isSome_after?_of_le farewellSpan ended shown)

end

/-- Two devices have two topics for their responses. -/
theorem response_injective {device other : String}
    (same : (Topics.ofDevice device).response = (Topics.ofDevice other).response) : device = other := by
  simp only [Topics.ofDevice] at same
  have texts := congrArg String.toList same
  simp only [String.toList_append] at texts
  exact String.toList_inj.mp (List.append_cancel_left (List.append_cancel_right texts))

/-- **The first event that decides, decides alone.** If it is a publication on the topic for responses,
the outcome is its payload as JSON, or the refusal of that; if the connection breaks or closes, the
outcome is this. If no event in time decides, it is the timeout. What is passed over leaves the outcome as
it is, wherever it comes, and messages for another device are passed over. The client gives back just
this outcome after its farewell. -/
theorem roundTrip_decided_by_first {call : Call} {now deadline : Instant}
    (accepted : hasWildcard call.topics.request = false)
    (reckoned : now.after? call.timeout = some deadline) :
    (∀ before e after later answer, InTime now deadline (before ++ e :: after) later →
      (∀ e' ∈ before, passesOver call.topics e'.event = true) → Decides call.topics e.event answer →
      (roundTrip call now (before ++ e :: after ++ later)).1 = answer) ∧
    (∀ events later, InTime now deadline events later →
      (∀ e ∈ events, passesOver call.topics e.event = true) →
      (roundTrip call now (events ++ later)).1 = .error (.timeout call.timeout)) ∧
    (∀ e, passesOver call.topics e = false →
      ∃ answer, Decides call.topics e answer ∧ ∀ other, Decides call.topics e other → other = answer) ∧
    (∀ events events' later later', InTime now deadline events later →
      InTime now deadline events' later' →
      decisive call.topics events = decisive call.topics events' →
      (roundTrip call now (events ++ later)).1 = (roundTrip call now (events' ++ later')).1) ∧
    (∀ device other payload, device ≠ other → call.topics = .ofDevice device →
      passesOver call.topics (.publication ⟨(Topics.ofDevice other).response, payload⟩) = true) ∧
    ∀ events, (deadline.after? farewellSpan).isSome →
      finish (roundTrip call now events) = (roundTrip call now events).1 := by
  refine ⟨?first, ?none, fun e => exists_decides call.topics e, ?same, ?devices, ?farewell⟩
  case first =>
    intro before e after later answer inTime passed decides
    exact roundTrip_of_first accepted reckoned inTime passed decides
  case none =>
    intro events later inTime passed
    exact roundTrip_of_none accepted reckoned inTime passed
  case same =>
    intro events events' later later' inTime inTime' same
    exact roundTrip_congr accepted reckoned inTime inTime' same
  case devices =>
    intro device other payload different own
    rw [own, passesOver, decide_eq_true_eq]
    exact fun same => different (response_injective same).symm
  case farewell =>
    intro events shown
    exact finish_roundTrip accepted reckoned events shown

/-- A call of a device, to which five seconds are given. -/
def sampleCall : Call := { envelope := "{}", topics := .ofDevice "device:1", timeout := .ofSeconds 5 }

/-- An event a second after the one before. -/
def aSecondLater (event : BrokerEvent) : TimedEvent := { delay := .ofSeconds 1, event }

/-- A message for another device, which is no JSON. -/
def foreign : TimedEvent :=
  aSecondLater (.publication ⟨(Topics.ofDevice "device:2").response, Text.utf8 "?"⟩)

/-- The answer to the call of the device. -/
def own : TimedEvent :=
  aSecondLater (.publication ⟨sampleCall.topics.response, Text.utf8 "\x7b\"Lat\": 46\x7d"⟩)

/-- The answer is taken between messages for another device, although the connection breaks later; those
messages alone leave the call without an answer. -/
theorem roundTrip_decided_by_first_amid_foreign :
    hasWildcard sampleCall.topics.request = false ∧
    (⟨7⟩ : Instant).after? sampleCall.timeout = some ⟨5000000007⟩ ∧
    (roundTrip sampleCall ⟨7⟩ ([aSecondLater .notice, foreign, own, foreign,
        { event := .fault .closed }, { delay := .ofSeconds 9, event := .notice }])).1 =
      .ok (.object [("Lat", .number (.natural 46))]) ∧
    (roundTrip sampleCall ⟨7⟩ [foreign, foreign, { delay := .ofSeconds 9, event := own.event }]).1 =
      .error (.timeout (.ofSeconds 5)) := by
  have accepted : hasWildcard sampleCall.topics.request = false := by decide
  have reckoned : (⟨7⟩ : Instant).after? sampleCall.timeout = some ⟨5000000007⟩ := by decide
  obtain ⟨first, none, -, -, devices, -⟩ := roundTrip_decided_by_first accepted reckoned
  have passed : passesOver sampleCall.topics foreign.event = true :=
    devices "device:1" "device:2" _ (by decide) rfl
  have read : Json.ofBytes (Text.utf8 "\x7b\"Lat\": 46\x7d") = .ok (.object [("Lat", .number (.natural 46))]) := by
    have text : "\x7b\"Lat\": 46\x7d".toList =
        ['\x7b', '"', 'L', 'a', 't', '"', ':', ' ', '4', '6', '\x7d'] := by decide
    rw [Json.ofBytes, Text.ofUtf8?_utf8]
    show Json.ofText _ = _
    rw [Json.ofText, text]
    rfl
  refine ⟨accepted, reckoned, ?answer, ?timeout⟩
  case answer =>
    refine first [aSecondLater .notice, foreign] own [foreign, { event := .fault .closed }]
      [{ delay := .ofSeconds 9, event := .notice }] _ ⟨by decide, ?_⟩ ?_ (.answered rfl read)
    · rintro e ⟨⟩
      decide
    · exact List.forall_mem_cons.mpr ⟨rfl, List.forall_mem_singleton.mpr passed⟩
  case timeout =>
    refine none [foreign, foreign] [{ delay := .ofSeconds 9, event := own.event }] ⟨by decide, ?_⟩ ?_
    · rintro e ⟨⟩
      decide
    · exact List.forall_mem_cons.mpr ⟨passed, List.forall_mem_singleton.mpr passed⟩

end Session

end SatelliteTrack
