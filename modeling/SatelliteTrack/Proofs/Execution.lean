import Mathlib
import SatelliteTrack.Program
import SatelliteTrack.Proofs.Failures
import SatelliteTrack.Proofs.Files
import SatelliteTrack.Proofs.Waiting

/-!
# What an execution leaves behind

An execution with settings has three outcomes. If the run gives no track the exit status is 1 and the disk is
as it was, whatever had been decoded or answered before. If it gives a track and both files can be
written, the status is 0 and they hold the table and the map of its rows, also of none. Otherwise the
status is 1. **The law** is `Program.execute_outcomes`; what the services send, and when, is free in it.

One thing can stop an execution at once, and the law leaves it out: the clock must be able to show the
end of every wait (`Program.Clocked`). `BrokerClient.Clocked.of_after?` says when that is so for a call.
-/

namespace SatelliteTrack

variable {σ τ : Type}

/-! ## Where the failure of a run comes from -/

/-- A run that fails at a service failed at the fetch, or at the answer to one of its calls. -/
theorem Extractor.Ends.exists_answer {x : Extractor} {service : Service σ} {state : σ}
    {fetched : Fetched} {run : Run σ} (h : x.Ends service state fetched run) {error : TransportError}
    (failed : run.result = .error (.transport error)) :
    fetched = .error error ∨ ∃ k call, run.calls[k]? = some call ∧
      (service call (service.after state (run.calls.take k))).1.refusal? = some error := by
  cases h with
  | unfetched result =>
    cases result.symm.trans failed
    exact .inl rfl
  | empty result => cases result.symm.trans failed
  | finished _ _ result => cases result.symm.trans failed
  | @stopped before rest m _ failure _ gathers stopped result calls =>
    cases result.symm.trans failed
    obtain ⟨raw, why⟩ := (m.contribution_eq_error_iff _ _).mp stopped
    obtain ⟨-, tooLarge⟩ | ⟨fits, error, refused, same⟩ := (m.failure?_eq_some_iff _ _).mp why
    · cases tooLarge
    · cases same
      have one : x.callsOf m = [x.call m] := by simp [Extractor.callsOf, raw, fits]
      rw [List.flatMap_append, List.flatMap_singleton, one] at calls
      refine .inr ⟨(before.flatMap x.callsOf).length, x.call m, ?_, ?_⟩
      · rw [calls, List.getElem?_concat_length]
      · rw [calls, List.take_left]
        exact refused

/-- A run makes no more calls than there are messages. -/
theorem Extractor.Ends.length_calls_le {x : Extractor} {service : Service σ} {state : σ}
    {messages : List Message} {run : Run σ} (h : x.Ends service state (.ok messages) run) :
    run.calls.length ≤ messages.length := by
  have count (messages : List Message) : (messages.flatMap x.callsOf).length ≤ messages.length := by
    induction messages with
    | nil => exact Nat.le_refl 0
    | cons m rest ih =>
      have one : (x.callsOf m).length ≤ 1 := by
        unfold Extractor.callsOf
        split <;> simp
      rw [List.flatMap_cons, List.length_append, List.length_cons]
      omega
  cases h with
  | empty _ calls => rw [calls]; exact Nat.le_refl 0
  | finished _ _ _ calls => rw [calls]; exact count messages
  | @stopped before rest m _ _ _ _ _ _ calls =>
    have within := count (before ++ [m])
    rw [calls]
    rw [List.length_append, List.length_singleton] at within
    rw [List.length_append, List.length_cons]
    omega

/-- No answer that came is refused for the clock. -/
theorem Answer.eq_error_of_clockOverflow {answer : Answer}
    (h : answer.refusal? = some .clockOverflow) : answer = .error .clockOverflow := by
  cases answer with
  | error error => cases h; rfl
  | ok json =>
    cases json with
    | object members =>
      obtain ⟨found, -, other⟩ := Option.map_eq_some_iff.mp h
      cases other
    | _ => cases h

/-- A fetch does not wait by the clock. -/
theorem FeedClient.feed_ne_clockOverflow (client : FeedClient) (query : Query) (server : FeedServer) :
    (client.feed query server).1.1 ≠ .error .clockOverflow := by
  have body_ne (reply : FeedReply) : FeedClient.body reply ≠ .error .clockOverflow := by
    unfold FeedClient.body
    split
    · exact nofun
    · split
      · exact nofun
      · split <;> exact nofun
  have exchange_ne : (client.exchange query server).1 ≠ .error .clockOverflow := by
    unfold FeedClient.exchange
    split
    · exact nofun
    · split
      · exact nofun
      · exact nofun
      · exact body_ne _
  intro overflow
  have fetched : FeedClient.messages (client.exchange query server).1 = .error .clockOverflow := overflow
  unfold FeedClient.messages at fetched
  split at fetched
  · next there => cases fetched; exact exchange_ne there
  · next text _ =>
    cases read : MessageList.ofText text with
    | error fault => rw [read] at fetched; cases fetched
    | ok messages => rw [read] at fetched; cases fetched

/-! ## The clock -/

namespace BrokerClient

variable {client : BrokerClient} {call : Call} {peer : BrokerPeer}

/-- The clock can show the ends of the two waits of a call: that for the answer, reckoned when the call
begins, and that for the farewell, reckoned when the first wait is over. -/
structure Clocked (client : BrokerClient) (call : Call) (peer : BrokerPeer) : Prop where
  answer : (peer.clock.after? call.timeout).isSome
  farewell : ((client.service call peer).2.clock.after? farewellSpan).isSome

/-- Connecting takes no time. -/
theorem clock_connect (client : BrokerClient) (call : Call) (peer : BrokerPeer) :
    (client.connect call peer).2.clock = peer.clock := by
  unfold connect
  split
  · rfl
  · rfl
  · dsimp only
    split <;> rfl

theorem service_eq (client : BrokerClient) (call : Call) (peer : BrokerPeer) :
    let outcome := Session.roundTrip call peer.clock (client.connect call peer).1
    (client.service call peer).1 = Session.finish outcome ∧
      (client.service call peer).2.clock = outcome.2 := by
  rw [← client.clock_connect call peer]
  exact ⟨rfl, rfl⟩

/-- A wait whose end can be shown does not run over, and is over by that end. -/
theorem roundTrip_of_after? {call : Call} {now deadline : Instant}
    (reckoned : now.after? call.timeout = some deadline) (events : List TimedEvent) :
    (Session.roundTrip call now events).2.nanoseconds ≤ deadline.nanoseconds ∧
      (Session.roundTrip call now events).1 ≠ .error .clockOverflow := by
  have begun : now.nanoseconds ≤ deadline.nanoseconds := by
    rw [Instant.nanoseconds_of_after? reckoned]
    exact Nat.le_add_right _ _
  by_cases wildcard : Session.hasWildcard call.topics.request = true
  · rw [Session.roundTrip, if_pos wildcard]
    exact ⟨begun, fun same => by cases same⟩
  · rw [Session.roundTrip_eq_await (Bool.not_eq_true _ ▸ wildcard) reckoned]
    exact Session.await_ends events begun

/-- Two seconds more than the time for the answer are enough. -/
theorem Clocked.of_after? {deadline : Instant} (reckoned : peer.clock.after? call.timeout = some deadline)
    (shown : (deadline.after? farewellSpan).isSome) : client.Clocked call peer where
  answer := by rw [reckoned]; rfl
  farewell := by
    rw [(service_eq client call peer).2]
    exact Instant.isSome_after?_of_le farewellSpan (roundTrip_of_after? reckoned _).1 shown

/-- A call moves the clock by no more than the time for its answer. -/
theorem clock_service_le (client : BrokerClient) (call : Call) (peer : BrokerPeer) :
    (client.service call peer).2.clock.nanoseconds ≤
      peer.clock.nanoseconds + call.timeout.toNanoseconds := by
  rw [(service_eq client call peer).2]
  cases reckoned : peer.clock.after? call.timeout with
  | some deadline =>
    rw [← Instant.nanoseconds_of_after? reckoned]
    exact (roundTrip_of_after? reckoned _).1
  | none =>
    have still : (Session.roundTrip call peer.clock (client.connect call peer).1).2 = peer.clock := by
      unfold Session.roundTrip
      rw [reckoned]
      split <;> rfl
    rw [still]
    exact Nat.le_add_right _ _

/-- Calls in turn move the clock by no more than the times for their answers. -/
theorem clock_after_le (client : BrokerClient) {span : Duration} (calls : List Call) (peer : BrokerPeer)
    (spans : ∀ call ∈ calls, call.timeout = span) :
    (client.service.after peer calls).clock.nanoseconds ≤
      peer.clock.nanoseconds + calls.length * span.toNanoseconds := by
  induction calls generalizing peer with
  | nil => exact Nat.le_add_right _ _
  | cons call rest ih =>
    obtain ⟨own, others⟩ := List.forall_mem_cons.mp spans
    have first := client.clock_service_le call peer
    have later := ih (client.service call peer).2 others
    rw [own] at first
    rw [List.length_cons, Nat.succ_mul]
    have steps : client.service.after peer (call :: rest) =
      client.service.after (client.service call peer).2 rest := rfl
    rw [steps]
    omega

/-- A call does not run over the clock when its ends can be shown. -/
theorem Clocked.ne_clockOverflow (h : client.Clocked call peer) :
    (client.service call peer).1 ≠ .error .clockOverflow := by
  obtain ⟨deadline, reckoned⟩ := Option.isSome_iff_exists.mp h.answer
  have kept := (roundTrip_of_after? reckoned (client.connect call peer).1).2
  have farewell := h.farewell
  rw [(service_eq client call peer).2] at farewell
  rw [(service_eq client call peer).1, Session.finish_of_shown kept farewell]
  exact kept

end BrokerClient

namespace Program

/-- The clock can show the ends of all waits of an execution. -/
def Clocked (settings : Settings) (world : World) : Prop :=
  let calls := (extraction settings world).1.calls
  let client := brokerClient settings
  ∀ k call, calls[k]? = some call → client.Clocked call (client.service.after world.broker (calls.take k))

/-- All calls of an execution wait for the time of the settings. -/
theorem timeout_of_mem_calls {settings : Settings} {world : World} {call : Call}
    (h : call ∈ (extraction settings world).1.calls) :
    call.timeout = .ofSeconds settings.responseTimeout := by
  unfold extraction at h
  obtain ⟨ends, -⟩ := (extractor settings).run_ends (feedClient settings).feed
    (brokerClient settings).service (query settings) world.feed world.broker
  obtain ⟨m, -, -, rfl⟩ := ends.exists_caller h
  rfl

/-- The clock is good for an execution if it can show the time that all waits take together at the most:
one for each call, and a farewell. -/
theorem clocked_of_room {settings : Settings} {world : World} {n : Nat}
    (few : (extraction settings world).1.calls.length ≤ n)
    (room : (world.broker.clock.nanoseconds +
      n * (Duration.ofSeconds settings.responseTimeout).toNanoseconds + farewellSpan.toNanoseconds) /
        secondNanoseconds ≤ Instant.lastSecond) : Clocked settings world := by
  have spans : ∀ call ∈ (extraction settings world).1.calls,
      call.timeout = .ofSeconds settings.responseTimeout := fun call mem => timeout_of_mem_calls mem
  unfold Clocked
  dsimp only
  generalize (extraction settings world).1.calls = calls at few spans ⊢
  generalize brokerClient settings = client
  intro k call called
  have inside : k < calls.length := (List.getElem?_eq_some_iff.mp called).1
  have begun := client.clock_after_le (calls.take k) world.broker
    fun call mem => spans call (List.mem_of_mem_take mem)
  rw [List.length_take_of_le (Nat.le_of_lt inside)] at begun
  have ends : (client.service.after world.broker (calls.take k)).clock.nanoseconds +
      call.timeout.toNanoseconds ≤ world.broker.clock.nanoseconds +
        n * (Duration.ofSeconds settings.responseTimeout).toNanoseconds := by
    have count := Nat.mul_le_mul_right (Duration.ofSeconds settings.responseTimeout).toNanoseconds
      (Nat.le_trans (Nat.succ_le_of_lt inside) few)
    rw [Nat.succ_mul] at count
    rw [spans call (List.mem_of_getElem? called)]
    omega
  have shown := Nat.le_trans (Nat.div_le_div_right (Nat.add_le_add_right ends _)) room
  have answer := (Instant.isSome_after?_iff _ call.timeout).mpr
    (Nat.le_trans (Nat.div_le_div_right (Nat.le_add_right _ _)) shown)
  obtain ⟨deadline, reckoned⟩ := Option.isSome_iff_exists.mp answer
  refine .of_after? reckoned ((Instant.isSome_after?_iff deadline _).mpr ?_)
  rw [Instant.nanoseconds_of_after? reckoned]
  exact shown

/-- With such a clock a run that fails does not fail for the clock. -/
theorem Clocked.ending {settings : Settings} {world : World} (h : Clocked settings world)
    {failure : Failure} (failed : (extraction settings world).1.result = .error failure) :
    failureEnding failure = .exited 1 := by
  unfold Clocked extraction at h
  unfold extraction at failed
  unfold failureEnding
  split
  · obtain ⟨ends, -⟩ := (extractor settings).run_ends (feedClient settings).feed
      (brokerClient settings).service (query settings) world.feed world.broker
    obtain unfetched | ⟨k, call, called, refused⟩ := ends.exists_answer failed
    · exact absurd unfetched (FeedClient.feed_ne_clockOverflow _ _ _)
    · exact absurd (Answer.eq_error_of_clockOverflow refused) (h k call called).ne_clockOverflow
  · rfl

/-- **The outcomes of an execution.** A run without a track leaves the disk alone. A run with a track
writes its two files if both can be written, in place of what was there, and nothing else; the status
says whether this was done. -/
theorem execute_outcomes {words : List String} {environment : List (String × String)}
    {settings : Settings} (accepted : settingsOf words environment = .ok settings) {world : World}
    (clocked : Clocked settings world) :
    let run := (extraction settings world).1
    let left := execute words environment world
    (∀ failure, run.result = .error failure → left.ending = .exited 1 ∧ left.world.disk = world.disk) ∧
    ∀ track, run.result = .ok track →
      (CanWriteOutputs world.disk settings.output track.rows →
        left.ending = .exited 0 ∧ Written world.disk settings.output track.rows left.world.disk) ∧
      (¬ CanWriteOutputs world.disk settings.output track.rows → left.ending = .exited 1) := by
  intro run left
  have executed : left = runWith settings world := by
    show execute words environment world = _
    rw [execute, accepted]
  rw [executed]
  unfold runWith
  refine ⟨fun failure failed => ?_, fun track done => ⟨fun can => ?_, fun cannot => ?_⟩⟩
  · have result : (extraction settings world).1.result = .error failure := failed
    simp only [result]
    exact ⟨clocked.ending result, trivial⟩
  · have result : (extraction settings world).1.result = .ok track := done
    obtain ⟨wrote, written⟩ := writeOutputs_of_canWrite can
    simp only [result]
    split
    · next failed => rw [failed] at wrote; cases wrote
    · next there => rw [there] at written; exact ⟨rfl, written⟩
  · have result : (extraction settings world).1.result = .ok track := done
    obtain ⟨fault, failed⟩ := writeOutputs_of_not_canWrite cannot
    simp only [result]
    split
    · rfl
    · next there => rw [there] at failed; cases failed

/-! A command line, and two worlds: in both there is an older table on the disk. -/

def sampleWords : List String := ["--start", "2022-08-15", "-otrack"]

def sampleEnvironment : List (String × String) :=
  [ ("ASTROCAST_API_TOKEN", "token"), ("ASTROCAST_DEVICE_GUID", "guid"),
    ("THINGSTREAM_DEVICE_ID", "device"), ("THINGSTREAM_USERNAME", ""), ("THINGSTREAM_PASSWORD", "") ]

def sampleSettings : Settings where
  apiToken := "token"
  deviceGuid := "guid"
  apiUrl := "https://api.astrocast.com"
  start := "2022-08-15"
  output := "track"
  mqttHost := "mqtt.thingstream.io"
  mqttPort := 1883
  mqttDeviceId := "device"
  mqttUsername := ""
  mqttPassword := ""
  responseTimeout := 60
  carryForward := true
  verbose := 0

def sampleDisk : Disk :=
  { nodes := [(["track.csv"], .file [1, 2, 3]), (["notes"], .file [4])] }

/-- The only message holds nothing. -/
def worldWithoutRows : World where
  feed := { replies := [{ body := "[[\"\",null,null,\"\"]]" }] }
  disk := sampleDisk

/-- The only message holds raw measurements, and there is no broker. -/
def worldWithoutBroker : World where
  feed := { replies := [{ body := "[[\"BAAAAAAAAAAAAAAAAAAAAAAAAAAA\",null,null,\"\"]]" }] }
  disk := sampleDisk

def sampleRaw : Message where
  payload := 4 :: List.replicate 20 0
  latitude := none
  longitude := none
  created := ""

theorem fetched_worldWithoutBroker :
    ((feedClient sampleSettings).feed (query sampleSettings) worldWithoutBroker.feed).1.1 =
      .ok [sampleRaw] := by
  cbv

theorem run_worldWithoutRows :
    ((extraction sampleSettings worldWithoutRows).1.result,
      (extraction sampleSettings worldWithoutRows).1.calls.length) =
    (.ok { rows := [], collected := 0, skipped := [⟨0, 0⟩] }, 0) := by
  cbv

/-- The call for the raw measurements is answered by a fault at once. -/
theorem answer_worldWithoutBroker :
    ((brokerClient sampleSettings).service ((extractor sampleSettings).call sampleRaw)
      worldWithoutBroker.broker).1 = .error (.broker .connectionRefused) := by
  have accepted : Session.hasWildcard ((extractor sampleSettings).call sampleRaw).topics.request = false := by
    show Session.hasWildcard (Topics.ofDevice "device").request = false
    decide
  have reckoned : (⟨0⟩ : Instant).after? ((extractor sampleSettings).call sampleRaw).timeout =
      some ⟨60000000000⟩ := by
    show (⟨0⟩ : Instant).after? (.ofSeconds 60) = some ⟨60000000000⟩
    decide
  have inTime : Session.InTime ⟨0⟩ ⟨60000000000⟩
      ([] ++ { event := .fault .connectionRefused } :: []) [] := by
    constructor
    · decide
    · nofun
  have decided := Session.roundTrip_of_first accepted reckoned inTime nofun (.broken _)
  have shown : ((⟨60000000000⟩ : Instant).after? farewellSpan).isSome = true := by decide
  rw [(BrokerClient.service_eq _ _ _).1]
  show Session.finish (Session.roundTrip _ ⟨0⟩ [{ event := .fault .connectionRefused }]) = _
  rw [Session.finish_roundTrip accepted reckoned _ shown]
  exact decided

/-- So the run fails, after its one call. -/
theorem result_worldWithoutBroker :
    (extraction sampleSettings worldWithoutBroker).1.result =
      .error (.transport (.broker .connectionRefused)) ∧
    (extraction sampleSettings worldWithoutBroker).1.calls.length ≤ 1 := by
  obtain ⟨ends, -⟩ := (extractor sampleSettings).run_ends (feedClient sampleSettings).feed
    (brokerClient sampleSettings).service (query sampleSettings) worldWithoutBroker.feed
    worldWithoutBroker.broker
  rw [fetched_worldWithoutBroker] at ends
  have place : [sampleRaw][0]? = some sampleRaw := rfl
  have small : sampleRaw.envelopeText.utf8ByteSize ≤ messageLimit :=
    sampleRaw.fits_eq_true_iff.mp (by cbv)
  have fails : sampleRaw.RoundTripFails ((extractor sampleSettings).answer
      (brokerClient sampleSettings).service worldWithoutBroker.broker [] sampleRaw)
      (.transport (.broker .connectionRefused)) := by
    rw [Extractor.answer, List.flatMap_nil, Service.after_nil, answer_worldWithoutBroker]
    exact .call small
  have failed := ends.result_of_fails
    (.roundTrip place rfl fails fun j earlier => absurd earlier (Nat.not_lt_zero j))
  exact ⟨failed, ends.length_calls_le⟩

/-- A message without a slot gives a track without rows, whose files take the place of older ones; raw
measurements without a broker give none, and leave the disk alone. -/
theorem execute_outcomes_samples :
    settingsOf sampleWords sampleEnvironment = .ok sampleSettings ∧
    (execute sampleWords sampleEnvironment worldWithoutRows).ending = .exited 0 ∧
    (execute sampleWords sampleEnvironment worldWithoutRows).world.disk.node? ["track.csv"] =
      some (.file (Text.utf8 (Csv.text []))) ∧
    (execute sampleWords sampleEnvironment worldWithoutRows).world.disk.node? ["notes"] =
      some (.file [4]) ∧
    (execute sampleWords sampleEnvironment worldWithoutBroker).ending = .exited 1 ∧
    (execute sampleWords sampleEnvironment worldWithoutBroker).world.disk = sampleDisk := by
  have accepted : settingsOf sampleWords sampleEnvironment = .ok sampleSettings := by cbv
  have toCsv : sampleDisk.target "track.csv" = .ok ["track.csv"] := rfl
  have toHtml : sampleDisk.target "track.html" = .ok ["track.html"] := rfl
  have can : CanWriteOutputs sampleDisk "track" [] :=
    ⟨_, _, toCsv, toHtml, nofun, nofun, nofun, nofun⟩
  obtain ⟨done, none⟩ := Prod.mk.inj run_worldWithoutRows
  have calm : Clocked sampleSettings worldWithoutRows := clocked_of_room (Nat.le_of_eq none) (by decide)
  obtain ⟨failed, one⟩ := result_worldWithoutBroker
  have calm' : Clocked sampleSettings worldWithoutBroker := clocked_of_room one (by decide)
  obtain ⟨status, ⟨csv, leads, content⟩, -, others⟩ :=
    ((execute_outcomes accepted calm).2 _ done).1 can
  obtain ⟨status', kept⟩ := (execute_outcomes accepted calm').1 _ failed
  have notes : (execute sampleWords sampleEnvironment worldWithoutRows).world.disk.node? ["notes"] =
      sampleDisk.node? ["notes"] := by
    refine others ["notes"] ?csv ?html
    case csv => exact fun same => absurd (Except.ok.inj (toCsv.symm.trans same)) (by decide)
    case html => exact fun same => absurd (Except.ok.inj (toHtml.symm.trans same)) (by decide)
  cases toCsv.symm.trans leads
  exact ⟨accepted, status, content, notes, status', kept⟩

end Program

end SatelliteTrack
