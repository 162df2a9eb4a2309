/-!
# Bytes as text

As hexadecimal text bytes have two lowercase digits each; reading takes digits of either case. As a text
they are what is sent for its characters. Both ways what is written reads back: `ofHex?_hex`,
`ofUtf8?_utf8`.
-/

namespace SatelliteTrack

/-- A string of bytes, as it is sent and received. -/
abbrev Bytes := List UInt8

namespace Text

/-- The hexadecimal digit of a number below sixteen. -/
def hexDigit (n : Nat) : Char := Nat.digitChar n

/-- The value of a hexadecimal digit of either case. -/
def hexValue? (c : Char) : Option Nat :=
  if '0' ≤ c ∧ c ≤ '9' then some (c.toNat - '0'.toNat)
  else if 'a' ≤ c ∧ c ≤ 'f' then some (c.toNat - 'a'.toNat + 10)
  else if 'A' ≤ c ∧ c ≤ 'F' then some (c.toNat - 'A'.toNat + 10)
  else none

/-- Two digits for one byte. -/
def hexByte (b : UInt8) : List Char :=
  [hexDigit (b.toNat / 16), hexDigit (b.toNat % 16)]

/-- The hexadecimal text of bytes. -/
def hex (bytes : Bytes) : String :=
  String.ofList (bytes.flatMap hexByte)

/-- The bytes that a run of digit pairs stands for. -/
def ofHexDigits? : List Char → Option Bytes
  | [] => some []
  | [_] => none
  | high :: low :: rest => do
    let high ← hexValue? high
    let low ← hexValue? low
    let bytes ← ofHexDigits? rest
    return UInt8.ofNat (high * 16 + low) :: bytes

/-- The bytes that a hexadecimal text stands for. -/
def ofHex? (text : String) : Option Bytes :=
  ofHexDigits? text.toList

theorem hexValue?_hexDigit {n : Nat} (h : n < 16) : hexValue? (hexDigit n) = some n := by
  have all : ∀ m : Fin 16, hexValue? (hexDigit m) = some m.val := by decide
  exact all ⟨n, h⟩

theorem ofHexDigits?_flatMap_hexByte (bytes : Bytes) :
    ofHexDigits? (bytes.flatMap hexByte) = some bytes := by
  induction bytes with
  | nil => rfl
  | cons b rest ih =>
    have high : b.toNat / 16 < 16 := by have := b.toNat_lt; omega
    have low : b.toNat % 16 < 16 := Nat.mod_lt _ (by decide)
    have whole : b.toNat / 16 * 16 + b.toNat % 16 = b.toNat := by omega
    simp only [List.flatMap_cons, hexByte, List.cons_append, List.nil_append, ofHexDigits?,
      hexValue?_hexDigit high, hexValue?_hexDigit low]
    rw [ih]
    show some (UInt8.ofNat (b.toNat / 16 * 16 + b.toNat % 16) :: rest) = some (b :: rest)
    rw [whole, UInt8.ofNat_toNat]

/-- What is written reads back. -/
theorem ofHex?_hex (bytes : Bytes) : ofHex? (hex bytes) = some bytes := by
  simp [ofHex?, hex, ofHexDigits?_flatMap_hexByte]

/-- The bytes of a text, as it is sent. -/
def utf8 (text : String) : Bytes :=
  text.toList.flatMap String.utf8EncodeChar

/-- The text that bytes stand for, if they are well formed. -/
def ofUtf8? (bytes : Bytes) : Option String :=
  String.fromUTF8? ⟨bytes.toArray⟩

theorem toByteArray_eq_utf8 (text : String) : text.toByteArray = ⟨(utf8 text).toArray⟩ := by
  conv => lhs; rw [← String.ofList_toList (s := text)]
  rw [String.toByteArray_ofList, List.utf8Encode]
  apply ByteArray.ext
  rw [List.data_toByteArray]
  rfl

theorem length_utf8 (text : String) : (utf8 text).length = text.utf8ByteSize := by
  rw [← String.size_toByteArray, toByteArray_eq_utf8]
  rfl

/-- What is sent is received. -/
theorem ofUtf8?_utf8 (text : String) : ofUtf8? (utf8 text) = some text := by
  rw [ofUtf8?, ← toByteArray_eq_utf8]
  simp [String.fromUTF8?, String.fromUTF8, text.isValidUTF8]

end Text

end SatelliteTrack
