import SatelliteTrack.Broker.Client
import SatelliteTrack.Proofs.Course
import SatelliteTrack.Proofs.Envelope
import SatelliteTrack.Proofs.Resolution

/-!
# The limit of an envelope and the limit of its packet

Two parts of the program watch over the size of what is sent: a request refuses an envelope that is larger
than a message of the broker, and the client refuses a packet that is larger than its own limit, which it
reckons from the topic. A packet is larger than the envelope in it, by a length that itself is longer for
a larger packet.

**The law** (`BrokerClient.limits_agree`): the second check never refuses what the first one let through.
Whatever is let through is published, in a packet that reads back as what it was made of
(`Publication.read?_encode`); what is not let through makes no call, and no run calls with anything else.

The first check is needed all the same. The client leaves room for the longest length there is, four
bytes, and three are enough for any topic that two bytes can count, so it would send an envelope of one
byte too many (`BrokerClient.sends_of_le`).
-/

namespace SatelliteTrack

/-! ## Lengths in base 128 -/

/-- **The size of a length.** It takes one byte more from each power of 128 on. -/
theorem length_lengthBytes_le_iff (n k : Nat) :
    (lengthBytes n).length ≤ k + 1 ↔ n < 128 ^ (k + 1) := by
  induction k generalizing n with
  | zero =>
    rw [lengthBytes]
    by_cases small : n < 128
    · simp [small]
    · have more : 0 < (lengthBytes (n / 128)).length := by
        rw [lengthBytes]
        split <;> exact Nat.succ_pos _
      rw [if_neg small, List.length_cons]
      omega
  | succ k ih =>
    rw [lengthBytes]
    by_cases small : n < 128
    · have below : n < 128 ^ (k + 1 + 1) :=
        Nat.lt_of_lt_of_le small (Nat.le_self_pow (Nat.succ_ne_zero _) 128)
      simp [if_pos small, below]
    · rw [if_neg small, List.length_cons, Nat.succ_le_succ_iff, ih,
        Nat.div_lt_iff_lt_mul (by decide), Nat.pow_succ 128 (k + 1)]

/-- The length at the beginning of some bytes, and what follows it. -/
def readLength : Bytes → Option (Nat × Bytes)
  | [] => none
  | b :: rest =>
    if b.toNat < 128 then some (b.toNat, rest)
    else (readLength rest).map fun (n, rest) => (b.toNat - 128 + 128 * n, rest)

theorem readLength_lengthBytes (n : Nat) (rest : Bytes) :
    readLength (lengthBytes n ++ rest) = some (n, rest) := by
  induction n using lengthBytes.induct with
  | case1 n small =>
    have digit : (UInt8.ofNat n).toNat = n := by
      rw [UInt8.toNat_ofNat']
      omega
    rw [lengthBytes, if_pos small, List.singleton_append, readLength, digit, if_pos small]
  | case2 n large ih =>
    have digit : (UInt8.ofNat (n % 128 + 128)).toNat = n % 128 + 128 := by
      rw [UInt8.toNat_ofNat']
      omega
    have whole : n % 128 + 128 - 128 + 128 * (n / 128) = n := by omega
    rw [lengthBytes, if_neg large, List.cons_append, readLength, digit, if_neg (by omega), ih,
      Option.map_some]
    exact congrArg (fun value => some (value, rest)) whole

/-! ## Packets -/

namespace Publication

/-- What a packet holds after its length: the length of the topic in two bytes, the topic, the payload. -/
def readBody? : Bytes → Option Publication
  | high :: low :: body =>
    let size := high.toNat * 256 + low.toNat
    if body.length < size then none
    else (Text.ofUtf8? (body.take size)).map fun topic => { topic, payload := body.drop size }
  | _ => none

/-- The publication at the beginning of some bytes, and what follows its packet. -/
def read? : Bytes → Option (Publication × Bytes)
  | [] => none
  | first :: rest =>
    if first ≠ header then none
    else
      match readLength rest with
      | none => none
      | some (n, rest) =>
        if rest.length < n then none
        else (readBody? (rest.take n)).map fun p => (p, rest.drop n)

variable {p : Publication}

/-- The part of a packet that its length counts. -/
def body (p : Publication) : Bytes :=
  twoBytes (Text.utf8 p.topic).length ++ Text.utf8 p.topic ++ p.payload

theorem length_body (p : Publication) : p.body.length = p.remaining := by
  simp only [body, twoBytes, remaining, List.length_append, List.length_cons, List.length_nil]

theorem readBody?_body (short : (Text.utf8 p.topic).length ≤ 65535) : readBody? p.body = some p := by
  have high : (UInt8.ofNat ((Text.utf8 p.topic).length / 256)).toNat = (Text.utf8 p.topic).length / 256 := by
    rw [UInt8.toNat_ofNat']
    omega
  have size : (Text.utf8 p.topic).length / 256 * 256 + (UInt8.ofNat (Text.utf8 p.topic).length).toNat =
      (Text.utf8 p.topic).length := by
    rw [UInt8.toNat_ofNat']
    omega
  have enough : ¬ (Text.utf8 p.topic ++ p.payload).length < (Text.utf8 p.topic).length := by
    rw [List.length_append]
    omega
  simp only [body, twoBytes, List.cons_append, List.nil_append, readBody?, high, size, if_neg enough,
    List.take_left, List.drop_left, Text.ofUtf8?_utf8, Option.map_some]

/-- **A packet reads back** as its publication, whatever follows it, if two bytes can hold the length of
the topic. -/
theorem read?_encode (short : (Text.utf8 p.topic).length ≤ 65535) (rest : Bytes) :
    read? (p.encode ++ rest) = some (p, rest) := by
  have parts : p.encode ++ rest = header :: (lengthBytes p.remaining ++ (p.body ++ rest)) := by
    simp only [encode, body, List.cons_append, List.append_assoc]
  have enough : ¬ (p.body ++ rest).length < p.body.length := by
    rw [List.length_append]
    omega
  rw [parts, read?, if_neg (not_not.mpr rfl), readLength_lengthBytes, ← length_body]
  simp only [if_neg enough, List.take_left, List.drop_left, readBody?_body short, Option.map_some]

/-- A packet adds six bytes to its topic and its payload, if its length takes no more than three. -/
theorem size_le (small : p.remaining < 128 ^ 3) :
    p.size ≤ (Text.utf8 p.topic).length + p.payload.length + 6 := by
  have length := (length_lengthBytes_le_iff p.remaining 2).mpr small
  simp only [size, remaining] at length ⊢
  omega

end Publication

/-! ## Calls that are sent -/

namespace BrokerClient

/-- A call that gets past the client: its packet is within the limit and reads back as its publication. No
connection reports it as too large of its own accord, and the broker sees it on each connection that it
accepts, unless the topic is none that can be published to. -/
structure Sends (call : Call) : Prop where
  within : (publication call).encode.length ≤ outgoingLimit call.topics
  readable : Publication.read? (publication call).encode = some (publication call, [])
  unrefused : ∀ script e size limit, e ∈ events call script →
    e.event = .fault (.outgoingTooLarge size limit) → e ∈ script.traffic
  published : ∀ (client : BrokerClient) now script, script.greeting = .accept →
    Session.hasWildcard call.topics.request = false →
    (client.dialogue call now script).publication = some (publication call)

/-- A publication of the broker is never a packet too large to be sent. -/
theorem replyEvent_ne (p : Publication) (size limit : Nat) :
    replyEvent p ≠ .fault (.outgoingTooLarge size limit) := by
  unfold replyEvent
  split <;> simp

/-- A fault that is taken from the traffic was in it. -/
theorem eq_of_received {e : TimedEvent} {size limit : Nat}
    (h : (received e).event = .fault (.outgoingTooLarge size limit)) : received e = e := by
  unfold received at h ⊢
  split at h
  · exact absurd h (replyEvent_ne _ size limit)
  · rfl

/-- The events of a connection on which the packet is within the limit. -/
theorem mem_traffic_of_within {call : Call} {script : BrokerScript}
    (within : (publication call).size ≤ outgoingLimit call.topics) {e : TimedEvent} {size limit : Nat}
    (mem : e ∈ events call script) (fault : e.event = .fault (.outgoingTooLarge size limit)) :
    e ∈ script.traffic := by
  unfold events at mem
  cases greeting : script.greeting with
  | reject reason =>
    rw [greeting, List.mem_singleton] at mem
    subst mem
    cases fault
  | close =>
    rw [greeting, List.mem_singleton] at mem
    subst mem
    cases fault
  | accept =>
    rw [greeting] at mem
    dsimp only at mem
    rw [if_neg (Nat.not_lt.mpr within)] at mem
    by_cases wild : Session.hasWildcard call.topics.request = true
    · rw [if_pos wild, List.mem_singleton] at mem
      subst mem
      cases fault
    · rw [if_neg wild, List.mem_append, List.mem_append, List.mem_cons] at mem
      rcases mem with ((rfl | reply) | closing) | later
      · cases fault
      · obtain ⟨p, -, rfl⟩ := List.mem_map.mp reply
        exact absurd fault (replyEvent_ne p size limit)
      · split at closing
        · rw [List.mem_singleton] at closing
          subst closing
          cases fault
        · cases closing
      · obtain ⟨own, inside, rfl⟩ := List.mem_map.mp later
        rwa [eq_of_received fault]

/-- **A call gets past the client** if its envelope is at most one byte larger than a message. -/
theorem sends_of_le {call : Call} (short : (Text.utf8 call.topics.request).length ≤ 65535)
    (size : call.envelope.utf8ByteSize ≤ messageLimit + 1) : Sends call := by
  have topic : (Text.utf8 (publication call).topic).length ≤ 65535 := short
  have payload : (publication call).payload.length ≤ messageLimit + 1 := by
    rw [publication, Text.length_utf8]
    exact size
  have small : (publication call).remaining < 128 ^ 3 := by
    simp only [Publication.remaining, messageLimit] at payload ⊢
    omega
  have within : (publication call).size ≤ outgoingLimit call.topics := calc
    (publication call).size
      ≤ (Text.utf8 call.topics.request).length + (publication call).payload.length + 6 :=
        Publication.size_le small
    _ ≤ outgoingLimit call.topics := by
        rw [outgoingLimit]
        omega
  refine ⟨?within, ?readable, ?unrefused, ?published⟩
  case within =>
    rw [Publication.length_encode]
    exact within
  case readable =>
    have whole := Publication.read?_encode topic []
    rwa [List.append_nil] at whole
  case unrefused =>
    intro script e size limit mem fault
    exact mem_traffic_of_within within mem fault
  case published =>
    intro client now script accepted plain
    unfold dialogue
    rw [accepted]
    exact if_neg (not_or.mpr ⟨by simp [plain], Nat.not_lt.mpr within⟩)

end BrokerClient

/-- **The limits agree.** For every topic that a packet can name, an accepted envelope is sent: its packet
is within the limit of the client, and nothing but the broker, or a wildcard in the topic, keeps it from
being published. A larger one is never sent: its request leaves the broker alone, and so no run makes a
call with it. -/
theorem BrokerClient.limits_agree (topics : Topics) (timeout : Duration)
    (short : (Text.utf8 topics.request).length ≤ 65535) :
    (∀ (request : PositionRequest) envelope, request.envelope = .ok envelope →
      Sends { envelope, topics, timeout }) ∧
    (∀ request : PositionRequest, 8192 < request.toJson.text.utf8ByteSize →
      ∀ (client : BrokerClient) (peer : BrokerPeer) (previous : TrackPoint),
        let r := resolve client.service peer request topics timeout previous
        r.calls = [] ∧ r.state = peer ∧
          r.result = .error (.payloadTooLarge request.toJson.text.utf8ByteSize 8192)) ∧
    ∀ {τ : Type} (x : Extractor) (feed : Feed τ) (client : BrokerClient) (query : Query) (fed : τ)
      (peer : BrokerPeer), x.topics = topics →
      let run := (x.run feed client.service query fed peer).1
      run.state = client.service.after peer run.calls ∧
        ∀ call ∈ run.calls, call.envelope.utf8ByteSize ≤ 8192 ∧ Sends call := by
  refine ⟨?accepted, ?refused, ?runs⟩
  case accepted =>
    intro request envelope written
    by_cases fits : request.Fits
    · cases (PositionRequest.envelope_of_fits fits).symm.trans written
      exact sends_of_le short (Nat.le_succ_of_le fits)
    · cases (PositionRequest.envelope_of_not_fits fits).symm.trans written
  case refused =>
    intro request large client peer previous r
    have outcome : r = _ :=
      resolve_of_not_fits client.service peer topics timeout previous (Nat.not_le.mpr large)
    rw [outcome]
    exact ⟨rfl, rfl, rfl⟩
  case runs =>
    rintro τ x feed client query fed peer rfl run
    obtain ⟨ends, moved, -⟩ := x.run_ends feed client.service query fed peer
    refine ⟨moved, fun call mem => ?_⟩
    obtain ⟨m, -, fits, rfl⟩ := ends.exists_caller mem
    have size : m.envelopeText.utf8ByteSize ≤ messageLimit := by simpa [Message.fits] using fits
    exact ⟨size, sends_of_le short (Nat.le_succ_of_le size)⟩

/-- An envelope of exactly the size of a message is sent, in a packet of 8221 bytes where there is room for
8223. One letter more would still leave the packet within the limit, but makes no call. -/
theorem BrokerClient.limits_agree_full_message :
    (Text.utf8 (Topics.ofDevice "device:1234").request).length ≤ 65535 ∧
    (∃ envelope, (PositionRequest.ofMeasurements .raw [208, 159]
        (String.ofList (List.replicate 8148 'x'))).envelope = .ok envelope ∧
      Sends { envelope, topics := .ofDevice "device:1234", timeout := .ofSeconds 5 }) ∧
    ∀ (client : BrokerClient) (peer : BrokerPeer),
      (resolve client.service peer (.ofMeasurements .raw [208, 159]
        (String.ofList (List.replicate 8149 'x'))) (.ofDevice "device:1234") (.ofSeconds 5) .empty).calls =
          [] := by
  have short : (Text.utf8 (Topics.ofDevice "device:1234").request).length ≤ 65535 := by decide
  obtain ⟨accepted, refused, -⟩ := limits_agree (.ofDevice "device:1234") (.ofSeconds 5) short
  refine ⟨short, ?_, fun client peer => ?_⟩
  · obtain ⟨large, -⟩ | ⟨-, envelope, written⟩ := PositionRequest.envelope_cases .raw [208, 159]
      (String.ofList (List.replicate 8148 'x'))
    · rw [PositionRequest.envelopeSize_letters] at large
      exact absurd large (by decide)
    · exact ⟨envelope, written, accepted _ envelope written⟩
  · have large : 8192 < (PositionRequest.ofMeasurements .raw [208, 159]
        (String.ofList (List.replicate 8149 'x'))).toJson.text.utf8ByteSize := by
      rw [PositionRequest.utf8ByteSize_ofMeasurements, PositionRequest.envelopeSize_letters]
      decide
    exact (refused _ large client peer .empty).1

end SatelliteTrack
