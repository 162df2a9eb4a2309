import SatelliteTrack.Position.Request
import SatelliteTrack.Proofs.Base64Codec
import SatelliteTrack.Proofs.JsonReading

/-!
# What an envelope holds, and when it fits

The size of an envelope is known beforehand (`envelopeSize`): a frame of 40 bytes, the measurements in
base64, and the date as it stands in a JSON string. The request is refused exactly when that is more
than a message takes, and the failure says how much it is.

An envelope that is not refused says all that went into it: it reads back as JSON, with the date as it
was and the measurements in base64, and so it determines both. `envelope_faithful` states all of this.
-/

namespace SatelliteTrack

open Json

/-- No byte that base64 is written with is escaped. -/
theorem Json.escapedCharSize_alphabet :
    ∀ b ∈ Base64.alphabet, escapedCharSize (Char.ofNat b.toNat) = 1 :=
  Base64.forall_mem_alphabet (by decide) (by decide)

theorem Json.escapedSize_encode (bytes : Bytes) :
    escapedSize (Base64.encode bytes) = 4 * ((bytes.length + 2) / 3) := by
  have one : ∀ b ∈ Base64.encodeBytes bytes, escapedCharSize (Char.ofNat b.toNat) = 1 := fun b hb =>
    escapedCharSize_alphabet b (Base64.mem_alphabet_of_mem_encodeBytes hb)
  rw [escapedSize, Base64.toList_encode, List.map_map, ← Base64.length_encodeBytes]
  calc ((Base64.encodeBytes bytes).map (escapedCharSize ∘ fun b => Char.ofNat b.toNat)).sum
    _ = ((Base64.encodeBytes bytes).map fun _ => 1).sum :=
      congrArg List.sum (List.map_congr_left one)
    _ = (Base64.encodeBytes bytes).length := by
      rw [List.map_const', List.sum_replicate_nat, Nat.mul_one]

namespace PositionRequest

/-- The size of the envelope for measurements and a date, in bytes. -/
def envelopeSize (measurements : Bytes) (date : String) : Nat :=
  40 + 4 * ((measurements.length + 2) / 3) + escapedSize date

theorem utf8ByteSize_text_toJson (r : PositionRequest) :
    r.toJson.text.utf8ByteSize = 40 + escapedSize r.body + escapedSize r.date := by
  have body : escapedSize "body" = 4 := by decide
  have headers : escapedSize "headers" = 7 := by decide
  have dateKey : escapedSize "UTCDateTime" = 11 := by decide
  simp only [toJson, utf8ByteSize_text_object, utf8ByteSize_text_string, List.map_cons, List.map_nil,
    List.sum_cons, List.sum_nil, body, headers, dateKey]
  omega

/-- The request reads back: an object of two strings, one of them in an object of its own. -/
theorem ofText_text_toJson (r : PositionRequest) : ofText r.toJson.text = .ok r.toJson := by
  have dated : Reads (.object [("UTCDateTime", .string r.date)]) 126 := by
    apply reads_object (List.pairwise_singleton _ _)
    intro m hm
    cases List.mem_singleton.mp hm
    exact reads_string r.date 125
  have ordered : [("body", Json.string r.body),
      ("headers", .object [("UTCDateTime", .string r.date)])].Pairwise fun m m' => m.1 < m'.1 := by
    apply List.pairwise_cons.mpr
    constructor
    · intro m hm
      cases List.mem_singleton.mp hm
      show "body" < "headers"
      decide
    · exact List.pairwise_singleton _ _
  apply ofText_text
  apply reads_object ordered
  intro m hm
  obtain rfl | hm := List.mem_cons.mp hm
  · exact reads_string r.body 126
  · cases List.mem_singleton.mp hm
    exact dated

theorem utf8ByteSize_ofMeasurements (tag : SlotTag) (measurements : Bytes) (date : String) :
    (ofMeasurements tag measurements date).toJson.text.utf8ByteSize = envelopeSize measurements date := by
  rw [utf8ByteSize_text_toJson, envelopeSize, ← escapedSize_encode]
  rfl

theorem parts_of_toJson_eq {r r' : PositionRequest} (same : r.toJson = r'.toJson) :
    r.body = r'.body ∧ r.date = r'.date := by
  simp only [toJson, Json.object.injEq, Json.string.injEq, List.cons.injEq, Prod.mk.injEq, true_and,
    and_true] at same
  exact same

/-- An envelope that is not refused is the text of its request, and reads back as this request. -/
theorem ofText_of_envelope {r : PositionRequest} {text : String} (written : r.envelope = .ok text) :
    text = r.toJson.text ∧ ofText text = .ok r.toJson := by
  simp only [envelope] at written
  split at written
  · cases written
  · cases written
    exact ⟨rfl, ofText_text_toJson r⟩

/-- **An envelope** is refused for its size, or it is the text of its request. -/
theorem envelope_cases (tag : SlotTag) (measurements : Bytes) (date : String) :
    (messageLimit < envelopeSize measurements date ∧ (ofMeasurements tag measurements date).envelope =
      .error (.payloadTooLarge (envelopeSize measurements date) messageLimit)) ∨
    (envelopeSize measurements date ≤ messageLimit ∧ ∃ text,
      (ofMeasurements tag measurements date).envelope = .ok text) := by
  rw [envelope, utf8ByteSize_ofMeasurements]
  obtain large | fits := Nat.lt_or_ge messageLimit (envelopeSize measurements date)
  · exact .inl ⟨large, if_pos large⟩
  · exact .inr ⟨fits, _, if_neg (Nat.not_lt.mpr fits)⟩

/-- Envelopes of one text hold the same measurements and the same date. -/
theorem measurements_eq_and_date_eq {tag tag' : SlotTag} {measurements measurements' : Bytes}
    {date date' text : String} (written : (ofMeasurements tag measurements date).envelope = .ok text)
    (written' : (ofMeasurements tag' measurements' date').envelope = .ok text) :
    measurements' = measurements ∧ date' = date := by
  obtain ⟨-, read⟩ := ofText_of_envelope written
  obtain ⟨-, read'⟩ := ofText_of_envelope written'
  obtain ⟨body, date⟩ := parts_of_toJson_eq (Except.ok.inj (read'.symm.trans read))
  have decoded : Except.ok measurements' = Except.ok measurements := calc
    Except.ok measurements' = Base64.decode (Base64.encode measurements') :=
      (Base64.decode_encode measurements').symm
    _ = Base64.decode (Base64.encode measurements) := congrArg Base64.decode body
    _ = .ok measurements := Base64.decode_encode measurements
  exact ⟨Except.ok.inj decoded, date⟩

/-- **The envelope is faithful.** It is written exactly when its size is within a message; otherwise the
failure says the size. What is written has that size, and is the JSON of the date and the measurements;
no other date or measurements are written the same way. -/
theorem envelope_faithful (tag : SlotTag) (measurements : Bytes) (date : String) :
    ((∃ text, (ofMeasurements tag measurements date).envelope = .ok text) ↔
      envelopeSize measurements date ≤ 8192) ∧
    (∀ failure, (ofMeasurements tag measurements date).envelope = .error failure →
      failure = .payloadTooLarge (envelopeSize measurements date) 8192) ∧
    ∀ text, (ofMeasurements tag measurements date).envelope = .ok text →
      text.utf8ByteSize = envelopeSize measurements date ∧
      (∃ body, Json.ofText text = .ok (.object [("body", .string body),
          ("headers", .object [("UTCDateTime", .string date)])]) ∧
        Base64.decode body = .ok measurements) ∧
      ∀ tag' measurements' date', (ofMeasurements tag' measurements' date').envelope = .ok text →
        measurements' = measurements ∧ date' = date := by
  refine ⟨?fits, ?refused, ?read⟩
  case fits =>
    obtain ⟨large, refused⟩ | ⟨fits, written⟩ := envelope_cases tag measurements date
    · rw [refused]
      constructor
      · rintro ⟨text, ⟨⟩⟩
      · intro fits
        exact absurd large (Nat.not_lt.mpr fits)
    · exact ⟨fun _ => fits, fun _ => written⟩
  case refused =>
    intro failure h
    obtain ⟨-, refused⟩ | ⟨-, text, written⟩ := envelope_cases tag measurements date
    · rw [refused] at h
      exact (Except.error.inj h).symm
    · rw [written] at h
      cases h
  case read =>
    intro text written
    obtain ⟨same, read⟩ := ofText_of_envelope written
    refine ⟨?_, ⟨Base64.encode measurements, read, Base64.decode_encode measurements⟩, ?_⟩
    · rw [same, utf8ByteSize_ofMeasurements]
    · intro tag' measurements' date' written'
      exact measurements_eq_and_date_eq written written'

/-- Two bytes of measurements and a date of plain letters. -/
theorem envelopeSize_letters (n : Nat) :
    envelopeSize [208, 159] (String.ofList (List.replicate n 'x')) = 44 + n := by
  have letter : escapedCharSize 'x' = 1 := by decide
  rw [envelopeSize, escapedSize, String.toList_ofList, List.map_replicate, letter,
    List.sum_replicate_nat, Nat.mul_one]
  rfl

/-- A date with each kind of escape fits; a plain one may be of 8148 letters beside two bytes of
measurements, and no more. -/
theorem envelope_faithful_mixed :
    (∃ text, (ofMeasurements .raw [208, 159] "\"é\x01\n").envelope = .ok text ∧
      text.utf8ByteSize = 56 ∧ ∃ body, Json.ofText text = .ok (.object [("body", .string body),
        ("headers", .object [("UTCDateTime", .string "\"é\x01\n")])]) ∧
      Base64.decode body = .ok [208, 159]) ∧
    (∃ text, (ofMeasurements .raw [208, 159] (String.ofList (List.replicate 8148 'x'))).envelope =
      .ok text) ∧
    (ofMeasurements .raw [208, 159] (String.ofList (List.replicate 8149 'x'))).envelope =
      .error (.payloadTooLarge 8193 8192) := by
  refine ⟨?escapes, ?most, ?tooMany⟩
  case escapes =>
    have size : envelopeSize [208, 159] "\"é\x01\n" = 56 := by decide
    obtain ⟨text, written⟩ := (envelope_faithful .raw [208, 159] "\"é\x01\n").1.mpr (by rw [size]; decide)
    obtain ⟨bytes, read, -⟩ := (envelope_faithful .raw [208, 159] "\"é\x01\n").2.2 text written
    exact ⟨text, written, bytes.trans size, read⟩
  case most =>
    exact (envelope_faithful .raw [208, 159] _).1.mpr (Nat.le_of_eq (envelopeSize_letters 8148))
  case tooMany =>
    obtain ⟨fits, refused, -⟩ := envelope_faithful .raw [208, 159] (String.ofList (List.replicate 8149 'x'))
    rw [envelopeSize_letters] at fits refused
    cases written : (ofMeasurements .raw [208, 159] (String.ofList (List.replicate 8149 'x'))).envelope with
    | ok text => exact absurd (fits.mp ⟨text, written⟩) (by decide)
    | error failure => rw [refused failure written]

end PositionRequest

end SatelliteTrack
