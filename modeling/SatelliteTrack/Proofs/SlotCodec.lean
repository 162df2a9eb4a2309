import Mathlib.Algebra.Group.Nat.Defs
import SatelliteTrack.Proofs.SlotSizes

/-!
# Payloads and slots, one for one

Reading a payload and writing the slot that it holds gives the payload back, and so does it the other
way round: `Slot.decode_lossless`. So no two payloads hold the same slot, and no field of a slot can be
told from its payload in two ways.

What is written reads back because each reader of a field takes off exactly what is written for it
(`FieldReader.Reads`), and readers in turn do so too. The other direction needs no reader: any bytes of
the right number are what is written for some slot (`FixSlot.exists_encode` and its neighbours), so the
slot that is read must be that one.

A tag can be spelled in two ways, since a code that has a name may be written as another code
(`SlotTag.IsCanonical`). Reading gives the name, and only slots with such tags are meant here.
-/

namespace SatelliteTrack

/-! ## The bytes of a word -/

/-- Four bytes are a number in two's complement, the lowest byte first. -/
theorem toInt_wordOfBytes (a b c d : UInt8) : (wordOfBytes a b c d).toInt =
    (a.toNat + b.toNat * 0x100 + c.toNat * 0x10000 + d.toNat * 0x1000000 : Int).bmod (2 ^ 32) := by
  have value : (wordOfBytes a b c d).toInt =
      ((a.toNat + b.toNat * 0x100 + c.toNat * 0x10000 + d.toNat * 0x1000000 : Nat) : Int).bmod
        (2 ^ 32) := BitVec.toInt_ofNat' ..
  rw [value, Int.natCast_add, Int.natCast_add, Int.natCast_add, Int.natCast_mul, Int.natCast_mul,
    Int.natCast_mul]
  rfl

/-- The bytes of a number stand for it. -/
theorem wordOfBytes_of_wordBytes {n : Int32} {a b c d : UInt8} (h : wordBytes n = [a, b, c, d]) :
    wordOfBytes a b c d = n := by
  cases h
  have lt := n.toUInt32.toNat_lt
  have sum : (UInt8.ofNat n.toUInt32.toNat).toNat + (UInt8.ofNat (n.toUInt32.toNat / 0x100)).toNat * 0x100 +
      (UInt8.ofNat (n.toUInt32.toNat / 0x10000)).toNat * 0x10000 +
      (UInt8.ofNat (n.toUInt32.toNat / 0x1000000)).toNat * 0x1000000 = n.toUInt32.toNat := by
    simp only [UInt8.toNat_ofNat']
    omega
  rw [wordOfBytes, sum, UInt32.ofNat_toNat, Int32.toInt32_toUInt32]

theorem wordBytes_wordOfBytes (a b c d : UInt8) : wordBytes (wordOfBytes a b c d) = [a, b, c, d] := by
  have ha := a.toNat_lt
  have hb := b.toNat_lt
  have hc := c.toNat_lt
  have hd := d.toNat_lt
  simp only [wordBytes, wordOfBytes, UInt32.toUInt32_toInt32, UInt32.toNat_ofNat', List.cons.injEq,
    and_true, ← UInt8.toNat_inj, UInt8.toNat_ofNat']
  omega

/-- **A word** is a number in two's complement, the lowest byte first. -/
theorem wordBytes_eq_iff (n : Int32) (a b c d : UInt8) : wordBytes n = [a, b, c, d] ↔
    n.toInt = (a.toNat + b.toNat * 0x100 + c.toNat * 0x10000 + d.toNat * 0x1000000 : Int).bmod
      (2 ^ 32) := by
  rw [← toInt_wordOfBytes, Int32.toInt_inj]
  constructor
  · intro written
    exact (wordOfBytes_of_wordBytes written).symm
  · rintro rfl
    exact wordBytes_wordOfBytes a b c d

/-! ## What is written reads back -/

namespace FieldReader

variable {α β : Type}

/-- The reader takes these bytes off the front for this value, whatever follows them. -/
def Reads (reader : FieldReader α) (bytes : Bytes) (x : α) : Prop :=
  ∀ rest, reader (bytes ++ rest) = .ok (x, rest)

theorem reads_pure (x : α) : Reads (pure x) [] x := fun _ => rfl

theorem reads_byte (b : UInt8) : Reads byte [b] b := fun _ => rfl

theorem reads_word (n : Int32) : Reads word (wordBytes n) n := by
  intro rest
  have same : wordOfBytes _ _ _ _ = n := wordOfBytes_of_wordBytes rfl
  show Except.ok (wordOfBytes _ _ _ _, rest) = _
  rw [same]

theorem reads_block {n : Nat} {bytes : Bytes} (h : bytes.length = n) :
    Reads (block n) bytes ⟨bytes, h⟩ := by
  intro rest
  have fits : n ≤ (bytes ++ rest).length := by
    rw [List.length_append, h]
    exact Nat.le_add_right _ _
  simp only [block, fits, ↓reduceDIte, Except.ok.injEq, Prod.mk.injEq, Subtype.mk.injEq]
  exact ⟨List.take_left' h, List.drop_left' h⟩

/-- Two readers in turn read what is written for the two in turn. -/
theorem Reads.bind {reader : FieldReader α} {next : α → FieldReader β} {bytes more : Bytes} {x : α} {y : β}
    (first : Reads reader bytes x) (second : Reads (next x) more y) :
    Reads (reader >>= next) (bytes ++ more) y := by
  intro rest
  show (reader (bytes ++ more ++ rest) >>= fun p => next p.1 p.2) = _
  rw [List.append_assoc, first]
  exact second rest

theorem Reads.whole {reader : FieldReader α} {bytes : Bytes} {x : α} (h : Reads reader bytes x) :
    whole reader bytes = .ok x := by
  have all := h []
  rw [List.append_nil] at all
  unfold FieldReader.whole
  rw [all]

end FieldReader

open FieldReader

theorem SensorReport.reads_encode (r : SensorReport) : Reads SensorReport.fields r.encode r :=
  (reads_byte r.temperature).bind <| (reads_byte r.battery).bind <| (reads_word r.time).bind <|
    reads_pure r

theorem FixSlot.reads_encode {s : FixSlot} (canonical : s.tag.IsCanonical) :
    Reads FixSlot.fields s.encode s := by
  have fields : Reads FixSlot.fields s.encode { s with tag := .ofByte s.tag.toByte } :=
    (reads_byte s.tag.toByte).bind <| (reads_word s.time).bind <| (reads_word s.latitude).bind <|
      (reads_word s.longitude).bind <| (reads_byte s.satellites).bind <| (reads_word s.speed).bind <|
        (reads_byte s.battery).bind <| (reads_byte s.temperature).bind <| reads_pure _
  rwa [SlotTag.ofByte_toByte s.tag canonical] at fields

theorem RawSlot.reads_encode {s : RawSlot} (canonical : s.tag.IsCanonical) :
    Reads RawSlot.fields s.encode s := by
  have fields : Reads RawSlot.fields ([s.tag.toByte] ++ (s.measurements ++ []))
      { s with tag := .ofByte s.tag.toByte } :=
    (reads_byte s.tag.toByte).bind <| (reads_block s.size_eq).bind <| reads_pure _
  rwa [SlotTag.ofByte_toByte s.tag canonical, List.append_nil] at fields

namespace Slot

/-- The tag of the slot, if it has one, is not another spelling of a code that has a name. -/
def IsCanonical (slot : Slot) : Prop := ∀ tag, slot.tag? = some tag → tag.IsCanonical

theorem decode_encode {slot : Slot} (canonical : slot.IsCanonical) :
    decode slot.encode = .ok slot := by
  cases slot with
  | sensor r =>
    have size : r.encode.length = 6 := rfl
    simp only [encode, decode, size, SensorReport.decode, r.reads_encode.whole]
    rfl
  | fix s =>
    have size : s.encode.length = 20 := rfl
    simp only [encode, decode, size, FixSlot.decode, (FixSlot.reads_encode (canonical _ rfl)).whole]
    rfl
  | raw s =>
    have size : s.encode.length = 21 := congrArg Nat.succ s.size_eq
    simp only [encode, decode, size, RawSlot.decode, (RawSlot.reads_encode (canonical _ rfl)).whole]
    rfl

end Slot

/-! ## Every payload is written for some slot -/

theorem SlotTag.isCanonical_ofByte (b : UInt8) : (ofByte b).IsCanonical := by
  unfold ofByte
  split
  · trivial
  split
  · trivial
  split
  · trivial
  split
  · trivial
  · simp only [IsCanonical, ← UInt8.toNat_inj] at *
    simp at *
    omega

/-- The first byte of bytes. -/
theorem exists_byte_append {bytes : Bytes} {n : Nat} (h : bytes.length = n + 1) :
    ∃ b rest, bytes = [b] ++ rest ∧ rest.length = n := by
  obtain ⟨b, rest, rfl⟩ := List.exists_cons_of_length_eq_add_one h
  exact ⟨b, rest, rfl, Nat.succ.inj h⟩

/-- The first four of bytes are written for some number. -/
theorem exists_word_append {bytes : Bytes} {n : Nat} (h : bytes.length = n + 4) :
    ∃ word rest, bytes = wordBytes word ++ rest ∧ rest.length = n := by
  obtain ⟨a, bytes, rfl, h3⟩ := exists_byte_append h
  obtain ⟨b, bytes, rfl, h2⟩ := exists_byte_append h3
  obtain ⟨c, bytes, rfl, h1⟩ := exists_byte_append h2
  obtain ⟨d, bytes, rfl, h0⟩ := exists_byte_append h1
  refine ⟨wordOfBytes a b c d, bytes, ?_, h0⟩
  rw [wordBytes_wordOfBytes]
  rfl

theorem SensorReport.exists_encode {bytes : Bytes} (h : bytes.length = 6) :
    ∃ r : SensorReport, r.encode = bytes := by
  obtain ⟨temperature, bytes, rfl, h5⟩ := exists_byte_append h
  obtain ⟨battery, bytes, rfl, h4⟩ := exists_byte_append h5
  obtain ⟨time, bytes, rfl, h0⟩ := exists_word_append h4
  obtain rfl := List.eq_nil_of_length_eq_zero h0
  exact ⟨{ temperature, battery, time }, rfl⟩

theorem FixSlot.exists_encode {bytes : Bytes} (h : bytes.length = 20) :
    ∃ s : FixSlot, s.tag.IsCanonical ∧ s.encode = bytes := by
  obtain ⟨tag, bytes, rfl, h19⟩ := exists_byte_append h
  obtain ⟨time, bytes, rfl, h15⟩ := exists_word_append h19
  obtain ⟨latitude, bytes, rfl, h11⟩ := exists_word_append h15
  obtain ⟨longitude, bytes, rfl, h7⟩ := exists_word_append h11
  obtain ⟨satellites, bytes, rfl, h6⟩ := exists_byte_append h7
  obtain ⟨speed, bytes, rfl, h2⟩ := exists_word_append h6
  obtain ⟨battery, bytes, rfl, h1⟩ := exists_byte_append h2
  obtain ⟨temperature, bytes, rfl, h0⟩ := exists_byte_append h1
  obtain rfl := List.eq_nil_of_length_eq_zero h0
  refine ⟨{ tag := .ofByte tag, time, latitude, longitude, satellites, speed, battery, temperature },
    SlotTag.isCanonical_ofByte tag, ?_⟩
  rw [encode, SlotTag.toByte_ofByte]
  rfl

theorem RawSlot.exists_encode {bytes : Bytes} (h : bytes.length = 21) :
    ∃ s : RawSlot, s.tag.IsCanonical ∧ s.encode = bytes := by
  obtain ⟨tag, measurements, rfl, size⟩ := exists_byte_append h
  refine ⟨⟨.ofByte tag, measurements, size⟩, SlotTag.isCanonical_ofByte tag, ?_⟩
  rw [encode, SlotTag.toByte_ofByte]
  rfl

namespace Slot

/-- The number of bytes of a slot. -/
def size : Slot → Nat
  | .sensor _ => 6
  | .fix _ => 20
  | .raw _ => 21

theorem length_encode (slot : Slot) : slot.encode.length = slot.size := by
  cases slot with
  | sensor r => rfl
  | fix s => rfl
  | raw s => exact congrArg Nat.succ s.size_eq

theorem exists_encode {bytes : Bytes} (h : bytes.length ∈ [6, 20, 21]) :
    ∃ slot : Slot, slot.IsCanonical ∧ slot.encode = bytes := by
  simp only [List.mem_cons, List.not_mem_nil, or_false] at h
  rcases h with sensor | fix | raw
  · obtain ⟨r, written⟩ := SensorReport.exists_encode sensor
    exact ⟨.sensor r, nofun, written⟩
  · obtain ⟨s, canonical, written⟩ := FixSlot.exists_encode fix
    refine ⟨.fix s, ?_, written⟩
    rintro tag ⟨⟩
    exact canonical
  · obtain ⟨s, canonical, written⟩ := RawSlot.exists_encode raw
    refine ⟨.raw s, ?_, written⟩
    rintro tag ⟨⟩
    exact canonical

/-- **A payload holds a slot when it is written for it.** -/
theorem decode_eq_ok_iff (bytes : Bytes) (slot : Slot) :
    decode bytes = .ok slot ↔ slot.IsCanonical ∧ slot.encode = bytes := by
  constructor
  · intro read
    by_cases supported : bytes.length ∈ [6, 20, 21]
    · -- the bytes are written for some slot, and that one is read
      obtain ⟨written, canonical, rfl⟩ := exists_encode supported
      rw [decode_encode canonical] at read
      cases read
      exact ⟨canonical, rfl⟩
    · rw [decode_of_length_other supported] at read
      cases read
  · rintro ⟨canonical, rfl⟩
    exact decode_encode canonical

/-- A payload holds a slot when its size is that of a layout. -/
theorem exists_decode_iff (bytes : Bytes) :
    (∃ slot, decode bytes = .ok slot) ↔ bytes.length ∈ [6, 20, 21] := by
  constructor
  · rintro ⟨slot, read⟩
    obtain ⟨-, rfl⟩ := (decode_eq_ok_iff bytes slot).mp read
    rw [length_encode]
    cases slot <;> simp [size]
  · intro supported
    obtain ⟨slot, canonical, rfl⟩ := exists_encode supported
    exact ⟨slot, decode_encode canonical⟩

/-- A payload is refused for its size alone. -/
theorem decode_eq_error_iff (bytes : Bytes) (fault : SlotFault) :
    decode bytes = .error fault ↔ bytes.length ∉ [6, 20, 21] ∧ fault = .unsupported bytes.length := by
  by_cases supported : bytes.length ∈ [6, 20, 21]
  · obtain ⟨slot, read⟩ := (exists_decode_iff bytes).mpr supported
    simp [read, supported]
  · simp [decode_of_length_other supported, supported, eq_comm]

/-- **The layouts lose nothing.** A payload holds a slot exactly when its size is that of a layout, which
is then the layout of the slot, and no payload is refused for anything but its size. Writing the slot
gives the payload back, reading what is written gives the slot back, and no two payloads hold one slot.
The words of a slot are numbers in two's complement, the lowest byte first. -/
theorem decode_lossless :
    (∀ bytes : Bytes, ((∃ slot, decode bytes = .ok slot) ↔ bytes.length ∈ [6, 20, 21]) ∧
      (∀ slot, decode bytes = .ok slot → slot.size = bytes.length ∧ slot.encode = bytes) ∧
      ∀ fault, decode bytes = .error fault ↔
        bytes.length ∉ [6, 20, 21] ∧ fault = .unsupported bytes.length) ∧
    (∀ slot : Slot, slot.IsCanonical → decode slot.encode = .ok slot) ∧
    (∀ bytes other slot, decode bytes = .ok slot → decode other = .ok slot → bytes = other) ∧
    ∀ (n : Int32) (a b c d : UInt8), wordBytes n = [a, b, c, d] ↔
      n.toInt = (a.toNat + b.toNat * 0x100 + c.toNat * 0x10000 + d.toNat * 0x1000000 : Int).bmod
        (2 ^ 32) := by
  refine ⟨fun bytes => ⟨exists_decode_iff bytes, ?_, decode_eq_error_iff bytes⟩,
    fun slot => decode_encode, ?_, ?_⟩
  · intro slot read
    obtain ⟨-, rfl⟩ := (decode_eq_ok_iff bytes slot).mp read
    exact ⟨(length_encode slot).symm, rfl⟩
  · intro bytes other slot read read'
    obtain ⟨-, written⟩ := (decode_eq_ok_iff bytes slot).mp read
    obtain ⟨-, written'⟩ := (decode_eq_ok_iff other slot).mp read'
    exact written.symm.trans written'
  · exact wordBytes_eq_iff

/-- A fix from before 1970 and south of the equator, under a tag without a name. -/
def earlyFix : Slot :=
  .fix { tag := .other 0x7f, time := -1, latitude := -337000000, longitude := 1512000000, satellites := 7,
         speed := -12, battery := 38, temperature := 19 }

theorem decode_lossless_earlyFix :
    decode earlyFix.encode = .ok earlyFix ∧ earlyFix.encode.take 5 = [0x7f, 0xff, 0xff, 0xff, 0xff] := by
  obtain ⟨-, back, -, word⟩ := decode_lossless
  refine ⟨back earlyFix ?_, congrArg (List.cons 0x7f) ((word (-1) _ _ _ _).mpr ?_)⟩
  · rintro tag ⟨⟩
    exact .inr (by decide)
  · decide

end Slot

end SatelliteTrack
