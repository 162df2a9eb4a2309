import SatelliteTrack.Text.Hex

/-!
# Slots: what a tracker sends

A payload has no version field; its length alone says which of three layouts it has.

| size | layout | fields |
|------|--------|--------|
| 6    | sensor | temperature, battery, time |
| 20   | fix    | tag, time, latitude, longitude, satellites, speed, battery, temperature |
| 21   | raw    | tag, 20 bytes of measurements |

A field is one byte, or four bytes that hold a signed number, the lowest byte first, or the
measurements. Here are the values that the layouts stand for, and their bytes.
-/

namespace SatelliteTrack

/-- The kind of a logged slot. -/
inductive SlotTag where
  | pvt
  | uplinkMessage
  | uplinkCommand
  | raw
  | other (code : UInt8)
deriving DecidableEq, Repr

namespace SlotTag

def ofByte (b : UInt8) : SlotTag :=
  if b = 1 then .pvt
  else if b = 2 then .uplinkMessage
  else if b = 3 then .uplinkCommand
  else if b = 4 then .raw
  else .other b

def toByte : SlotTag → UInt8
  | .pvt => 1
  | .uplinkMessage => 2
  | .uplinkCommand => 3
  | .raw => 4
  | .other code => code

/-- A code that has a name is not written as another code. -/
def IsCanonical : SlotTag → Prop
  | .other code => code.toNat = 0 ∨ 4 < code.toNat
  | _ => True

theorem toByte_ofByte (b : UInt8) : (ofByte b).toByte = b := by
  unfold ofByte
  split
  · next h => exact h.symm
  split
  · next h => exact h.symm
  split
  · next h => exact h.symm
  split
  · next h => exact h.symm
  · rfl

theorem ofByte_toByte (tag : SlotTag) (h : tag.IsCanonical) : ofByte tag.toByte = tag := by
  cases tag with
  | other code =>
    have ne : ∀ n : UInt8, 1 ≤ n.toNat → n.toNat ≤ 4 → code ≠ n := by
      intro n low high same
      subst same
      unfold IsCanonical at h
      omega
    simp [toByte, ofByte, ne 1 (by decide) (by decide), ne 2 (by decide) (by decide),
      ne 3 (by decide) (by decide), ne 4 (by decide) (by decide)]
  | _ => rfl

/-- The tag as it is named in messages. -/
def text : SlotTag → String
  | .pvt => "Pvt"
  | .uplinkMessage => "UplinkMessage"
  | .uplinkCommand => "UplinkCommand"
  | .raw => "Raw"
  | .other code => "Other(" ++ toString code.toNat ++ ")"

end SlotTag

/-- A sensor report. The position comes from the satellite network, not from the tracker. -/
structure SensorReport where
  /-- Degrees Celsius. -/
  temperature : UInt8
  /-- Tenths of a volt. -/
  battery : UInt8
  /-- Seconds from the start of 1970. -/
  time : Int32
deriving DecidableEq, Repr

/-- A fix: a position taken on the tracker. -/
structure FixSlot where
  tag : SlotTag
  time : Int32
  /-- Ten-millionths of a degree. -/
  latitude : Int32
  longitude : Int32
  satellites : UInt8
  /-- Ground speed, unscaled. -/
  speed : Int32
  battery : UInt8
  temperature : UInt8
deriving DecidableEq, Repr

/-- The size of the measurements of a raw slot. -/
def measurementSize : Nat := 20

/-- Raw satellite measurements, from which the position service computes a position. -/
structure RawSlot where
  tag : SlotTag
  measurements : Bytes
  size_eq : measurements.length = measurementSize
deriving DecidableEq, Repr

/-- A payload of one of the three layouts. -/
inductive Slot where
  | sensor (report : SensorReport)
  | fix (slot : FixSlot)
  | raw (slot : RawSlot)
deriving DecidableEq, Repr

/-! ## The bytes of a slot -/

/-- The four bytes of a signed number, the lowest first. -/
def wordBytes (n : Int32) : Bytes :=
  let bits := n.toUInt32.toNat
  [UInt8.ofNat bits, UInt8.ofNat (bits / 0x100), UInt8.ofNat (bits / 0x10000), UInt8.ofNat (bits / 0x1000000)]

/-- The signed number of four bytes, the lowest first. -/
def wordOfBytes (a b c d : UInt8) : Int32 :=
  (UInt32.ofNat (a.toNat + b.toNat * 0x100 + c.toNat * 0x10000 + d.toNat * 0x1000000)).toInt32

def SensorReport.encode (r : SensorReport) : Bytes :=
  r.temperature :: r.battery :: wordBytes r.time

def FixSlot.encode (s : FixSlot) : Bytes :=
  s.tag.toByte :: wordBytes s.time ++ wordBytes s.latitude ++ wordBytes s.longitude ++
    s.satellites :: wordBytes s.speed ++ [s.battery, s.temperature]

def RawSlot.encode (s : RawSlot) : Bytes :=
  s.tag.toByte :: s.measurements

namespace Slot

/-- The payload that a tracker sends for a slot. -/
def encode : Slot → Bytes
  | .sensor r => r.encode
  | .fix s => s.encode
  | .raw s => s.encode

/-- The tag of a slot that has one. -/
def tag? : Slot → Option SlotTag
  | .sensor _ => none
  | .fix s => some s.tag
  | .raw s => some s.tag

end Slot

end SatelliteTrack
