import SatelliteTrack.Message

/-!
# The size of a payload decides its slot

`Slot.decode` chooses a layout by the size of the payload and reads its fields. No field can lack bytes
then and no byte is left over, so the reader of the fields never fails: a payload of 6, 20 or 21 bytes
is a sensor report, a fix or a raw slot whatever its bytes are, and a payload of another size is refused
with its size. The fault `SlotFault.residue` comes out of the readers of single layouts only.

`FieldReader.Takes` is the notion behind it: a reader that takes a fixed number of bytes off any bytes
that are long enough.
-/

namespace SatelliteTrack

namespace FieldReader

variable {α β : Type}

/-- The reader takes so many bytes off the front, whatever they are, when there are that many. -/
def Takes (reader : FieldReader α) (n : Nat) : Prop :=
  ∀ bytes : Bytes, n ≤ bytes.length → ∃ x, reader bytes = .ok (x, bytes.drop n)

theorem takes_pure (x : α) : Takes (pure x) 0 := fun _ _ => ⟨x, rfl⟩

theorem takes_byte : Takes byte 1 := by
  intro bytes h
  cases bytes with
  | nil => simp at h
  | cons b rest => exact ⟨b, rfl⟩

theorem takes_word : Takes word 4 := by
  intro bytes h
  match bytes, h with
  | a :: b :: c :: d :: rest, _ => exact ⟨wordOfBytes a b c d, rfl⟩

/-- Two readers in turn take what each of them takes. -/
theorem Takes.bind {reader : FieldReader α} {next : α → FieldReader β} {m n : Nat}
    (first : Takes reader m) (second : ∀ x, Takes (next x) n) : Takes (reader >>= next) (m + n) := by
  intro bytes h
  obtain ⟨x, hx⟩ := first bytes (by omega)
  obtain ⟨y, hy⟩ := second x (bytes.drop m) (by rw [List.length_drop]; omega)
  refine ⟨y, ?_⟩
  show (reader bytes >>= fun p => next p.1 p.2) = _
  rw [hx]
  show next x (bytes.drop m) = _
  rw [hy, List.drop_drop]

/-- A reader of `n` bytes reads the whole of any `n` bytes. -/
theorem Takes.whole {reader : FieldReader α} {n : Nat} (takes : Takes reader n) {bytes : Bytes}
    (h : bytes.length = n) : ∃ x, whole reader bytes = .ok x := by
  obtain ⟨x, hx⟩ := takes bytes (Nat.le_of_eq h.symm)
  refine ⟨x, ?_⟩
  rw [List.drop_eq_nil_of_le (Nat.le_of_eq h)] at hx
  unfold FieldReader.whole
  rw [hx]

end FieldReader

open FieldReader

theorem SensorReport.takes_fields : Takes SensorReport.fields 6 :=
  takes_byte.bind fun _ => takes_byte.bind fun _ => takes_word.bind fun _ => takes_pure _

theorem FixSlot.takes_fields : Takes FixSlot.fields 20 :=
  takes_byte.bind fun _ => takes_word.bind fun _ => takes_word.bind fun _ => takes_word.bind fun _ =>
    takes_byte.bind fun _ => takes_word.bind fun _ => takes_byte.bind fun _ =>
      takes_byte.bind fun _ => takes_pure _

/-- Every 21 bytes are a raw slot: a tag, and the other 20 bytes as they stand. -/
theorem RawSlot.decode_of_length {bytes : Bytes} (h : bytes.length = 21) :
    ∃ s, RawSlot.decode bytes = .ok s ∧ s.measurements = bytes.drop 1 := by
  match bytes, h with
  | tag :: rest, h =>
    have size : rest.length = measurementSize := Nat.succ.inj h
    have fits : measurementSize ≤ rest.length := Nat.le_of_eq size.symm
    have read : block measurementSize rest = .ok (⟨rest, size⟩, []) := by
      simp only [block, fits, ↓reduceDIte, Except.ok.injEq, Prod.mk.injEq, Subtype.mk.injEq]
      exact ⟨List.take_of_length_le (Nat.le_of_eq size), List.drop_eq_nil_of_le (Nat.le_of_eq size)⟩
    refine ⟨⟨.ofByte tag, rest, size⟩, ?_, rfl⟩
    have fields : RawSlot.fields (tag :: rest) = (block measurementSize rest).map fun p =>
        (⟨.ofByte tag, p.1.val, p.1.property⟩, p.2) := by
      show (block measurementSize rest >>= _) = _
      cases block measurementSize rest <;> rfl
    rw [read] at fields
    unfold RawSlot.decode whole
    rw [fields]
    rfl

namespace Slot

theorem decode_of_length_sensor {bytes : Bytes} (h : bytes.length = 6) :
    ∃ r, Slot.decode bytes = .ok (.sensor r) := by
  obtain ⟨r, hr⟩ := SensorReport.takes_fields.whole h
  refine ⟨r, ?_⟩
  simp only [Slot.decode, h, SensorReport.decode, hr]
  rfl

theorem decode_of_length_fix {bytes : Bytes} (h : bytes.length = 20) :
    ∃ s, Slot.decode bytes = .ok (.fix s) := by
  obtain ⟨s, hs⟩ := FixSlot.takes_fields.whole h
  refine ⟨s, ?_⟩
  simp only [Slot.decode, h, FixSlot.decode, hs]
  rfl

theorem decode_of_length_raw {bytes : Bytes} (h : bytes.length = 21) :
    ∃ s, Slot.decode bytes = .ok (.raw s) ∧ s.measurements = bytes.drop 1 := by
  obtain ⟨s, hs, rest⟩ := RawSlot.decode_of_length h
  refine ⟨s, ?_, rest⟩
  simp only [Slot.decode, h, hs]
  rfl

theorem decode_of_length_other {bytes : Bytes} (h : bytes.length ∉ [6, 20, 21]) :
    Slot.decode bytes = .error (.unsupported bytes.length) := by
  simp only [List.mem_cons, List.not_mem_nil, or_false, not_or] at h
  unfold Slot.decode
  split
  · next sensor => exact absurd sensor h.1
  · next fix => exact absurd fix h.2.1
  · next raw => exact absurd raw h.2.2
  · rfl

end Slot

namespace Message

/-- The payload has the size of one of the three layouts. -/
def isSupported (m : Message) : Bool := m.payload.length ∈ [6, 20, 21]

/-- The payload has the size of a raw slot, so the position has to be asked for. -/
def isRaw (m : Message) : Bool := m.payload.length = 21

/-- What the four kinds of messages hold, by the size of the payload. Everything that is said of a
message of any kind is said case by case from here. -/
theorem slot_cases (m : Message) :
    (m.payload.length = 6 ∧ ∃ r, Slot.decode m.payload = .ok (.sensor r)) ∨
    (m.payload.length = 20 ∧ ∃ s, Slot.decode m.payload = .ok (.fix s)) ∨
    (m.payload.length = 21 ∧
      ∃ s, Slot.decode m.payload = .ok (.raw s) ∧ s.measurements = m.payload.drop 1) ∨
    (m.payload.length ∉ [6, 20, 21] ∧
      Slot.decode m.payload = .error (.unsupported m.payload.length)) := by
  by_cases sensor : m.payload.length = 6
  · exact .inl ⟨sensor, Slot.decode_of_length_sensor sensor⟩
  by_cases fix : m.payload.length = 20
  · exact .inr (.inl ⟨fix, Slot.decode_of_length_fix fix⟩)
  by_cases raw : m.payload.length = 21
  · exact .inr (.inr (.inl ⟨raw, Slot.decode_of_length_raw raw⟩))
  · have other : m.payload.length ∉ [6, 20, 21] := by simp [sensor, fix, raw]
    exact .inr (.inr (.inr ⟨other, Slot.decode_of_length_other other⟩))

end Message

end SatelliteTrack
