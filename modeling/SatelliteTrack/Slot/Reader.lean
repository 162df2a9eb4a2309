import SatelliteTrack.Slot.Layout

/-!
# Reading a slot

Fields are taken off the front of the bytes in the order of the layout. The first field that lacks
bytes fails with all the bytes from its start; bytes after the last field fail with those bytes. So a
failure always holds a suffix of the payload: the part that no complete field has used.
-/

namespace SatelliteTrack

/-- Bytes that a layout could not use. -/
structure Residue where
  bytes : Bytes
deriving DecidableEq, Repr

/-- A reader of fields: what it takes off the bytes and the bytes after it, or the bytes it fails on. -/
abbrev FieldReader (α : Type) := StateT Bytes (Except Residue) α

namespace FieldReader

/-- A field of one byte. -/
def byte : FieldReader UInt8
  | [] => .error ⟨[]⟩
  | b :: rest => .ok (b, rest)

/-- A field of four bytes: a signed number. -/
def word : FieldReader Int32
  | a :: b :: c :: d :: rest => .ok (wordOfBytes a b c d, rest)
  | bytes => .error ⟨bytes⟩

/-- A field of a number of bytes. -/
def block (n : Nat) : FieldReader { bytes : Bytes // bytes.length = n } := fun bytes =>
  if h : n ≤ bytes.length then
    .ok (⟨bytes.take n, by rw [List.length_take]; exact Nat.min_eq_left h⟩, bytes.drop n)
  else .error ⟨bytes⟩

/-- What a reader takes off bytes that hold nothing else. -/
def whole {α : Type} (reader : FieldReader α) (bytes : Bytes) : Except Residue α :=
  match reader bytes with
  | .error residue => .error residue
  | .ok (x, []) => .ok x
  | .ok (_, rest) => .error ⟨rest⟩

end FieldReader

open FieldReader

def SensorReport.fields : FieldReader SensorReport := do
  let temperature ← byte
  let battery ← byte
  let time ← word
  return { temperature, battery, time }

def FixSlot.fields : FieldReader FixSlot := do
  let tag ← byte
  let time ← word
  let latitude ← word
  let longitude ← word
  let satellites ← byte
  let speed ← word
  let battery ← byte
  let temperature ← byte
  return { tag := .ofByte tag, time, latitude, longitude, satellites, speed, battery, temperature }

def RawSlot.fields : FieldReader RawSlot := do
  let tag ← byte
  let measurements ← block measurementSize
  return { tag := .ofByte tag, measurements := measurements.val, size_eq := measurements.property }

def SensorReport.decode (bytes : Bytes) : Except Residue SensorReport := whole fields bytes

def FixSlot.decode (bytes : Bytes) : Except Residue FixSlot := whole fields bytes

def RawSlot.decode (bytes : Bytes) : Except Residue RawSlot := whole fields bytes

/-- Why a payload holds no slot. -/
inductive SlotFault where
  /-- No layout has this size. -/
  | unsupported (size : Nat)
  | residue (bytes : Residue)
deriving DecidableEq, Repr

/-- The slot that a payload holds; its size chooses the layout. -/
def Slot.decode (bytes : Bytes) : Except SlotFault Slot :=
  match bytes.length with
  | 6 => (SensorReport.decode bytes).mapError .residue |>.map .sensor
  | 20 => (FixSlot.decode bytes).mapError .residue |>.map .fix
  | 21 => (RawSlot.decode bytes).mapError .residue |>.map .raw
  | size => .error (.unsupported size)

/-! ## Scales -/

/-- Volts from tenths of a volt. -/
def volts (raw : UInt8) : Float := raw.toFloat / 10.0

/-- Degrees from ten-millionths of a degree. -/
def degrees (raw : Int32) : Float := raw.toFloat * 1e-7

end SatelliteTrack
