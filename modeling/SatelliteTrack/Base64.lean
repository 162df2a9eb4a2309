import SatelliteTrack.Text.Hex

/-!
# Padded base64

Three bytes are four symbols of an alphabet of 64; a last group of one or two bytes is filled up with
`=`. `decode` accepts exactly the texts that `encode` writes: the right alphabet, the padding in its
place, and no stray bits in the last symbol. Its faults name the first offending byte of the text.
-/

namespace SatelliteTrack.Base64

/-- The symbol of a number below 64. -/
def symbol (n : Nat) : UInt8 :=
  UInt8.ofNat <|
    if n < 26 then n + 65
    else if n < 52 then n + 71
    else if n < 62 then n - 4
    else if n = 62 then 43
    else 47

/-- The number of a symbol. -/
def value? (b : UInt8) : Option Nat :=
  let n := b.toNat
  if 65 ≤ n ∧ n ≤ 90 then some (n - 65)
  else if 97 ≤ n ∧ n ≤ 122 then some (n - 71)
  else if 48 ≤ n ∧ n ≤ 57 then some (n + 4)
  else if n = 43 then some 62
  else if n = 47 then some 63
  else none

/-- The byte that fills up a last group. -/
def pad : UInt8 := 61

/-- The symbols of bytes, filled up to whole groups of four. -/
def encodeBytes : Bytes → Bytes
  | [] => []
  | [a] =>
    [symbol (a.toNat / 4), symbol (a.toNat % 4 * 16), pad, pad]
  | [a, b] =>
    [symbol (a.toNat / 4), symbol (a.toNat % 4 * 16 + b.toNat / 16), symbol (b.toNat % 16 * 4), pad]
  | a :: b :: c :: rest =>
    symbol (a.toNat / 4) :: symbol (a.toNat % 4 * 16 + b.toNat / 16) ::
      symbol (b.toNat % 16 * 4 + c.toNat / 64) :: symbol (c.toNat % 64) :: encodeBytes rest

/-- The base64 text of bytes. -/
def encode (bytes : Bytes) : String :=
  String.ofList ((encodeBytes bytes).map fun b => Char.ofNat b.toNat)

/-- Why a text is not base64. Offsets count bytes of the text. -/
inductive Fault where
  | symbol (byte : UInt8) (offset : Nat)
  | length (bytes : Nat)
  | padding
  | lastSymbol (byte : UInt8) (offset : Nat)
deriving DecidableEq, Repr

/-- The fault in words. -/
def Fault.message : Fault → String
  | .symbol byte offset => s!"Invalid symbol {byte.toNat}, offset {offset}."
  | .length bytes => s!"Invalid input length: {bytes}"
  | .padding => "Invalid padding"
  | .lastSymbol byte offset => s!"Invalid last symbol {byte.toNat}, offset {offset}."

/-- The values of a run of symbols that stands at an offset of the text. -/
def values (offset : Nat) : Bytes → Except Fault (List Nat)
  | [] => .ok []
  | b :: rest =>
    match value? b with
    | none => .error (.symbol b offset)
    | some n => (values (offset + 1) rest).map (n :: ·)

/-- The last group, of one to four bytes: its symbols and the number of fill bytes. A fill byte may
stand at the third or fourth place only, and nothing but fill bytes may follow it. -/
def lastGroup (offset : Nat) : (place : Nat) → (firstPad : Option Nat) → Bytes →
    Except Fault (List Nat × Nat)
  | _, _, [] => .ok ([], 0)
  | place, firstPad, b :: rest =>
    if b = pad then
      if place < 2 then .error (.symbol b (offset + place))
      else
        (lastGroup offset (place + 1) (some (firstPad.getD place)) rest).map
          fun (symbols, pads) => (symbols, pads + 1)
    else
      match firstPad, value? b with
      | some first, _ => .error (.symbol pad (offset + first))
      | none, none => .error (.symbol b (offset + place))
      | none, some n =>
        (lastGroup offset (place + 1) none rest).map fun (symbols, pads) => (n :: symbols, pads)

/-- The bytes of the symbols of a last group; `none` when bits are left over that are not zero. -/
def lastBytes? : List Nat → Option Bytes
  | [a, b] => if b % 16 = 0 then some [UInt8.ofNat (a * 4 + b / 16)] else none
  | [a, b, c] =>
    if c % 4 = 0 then some [UInt8.ofNat (a * 4 + b / 16), UInt8.ofNat (b % 16 * 16 + c / 4)] else none
  | [a, b, c, d] =>
    some [UInt8.ofNat (a * 4 + b / 16), UInt8.ofNat (b % 16 * 16 + c / 4), UInt8.ofNat (c % 4 * 64 + d)]
  | _ => none

/-- The end of a text: its last group, which may be filled up. -/
def decodeLast (size offset : Nat) (group : Bytes) : Except Fault Bytes := do
  let (symbols, pads) ← lastGroup offset 0 none group
  if symbols.length < 2 then throw (.length size)
  if symbols.length + pads ≠ 4 then throw .padding
  match lastBytes? symbols with
  | some bytes => return bytes
  | none =>
    let place := symbols.length - 1
    throw (.lastSymbol (group.getD place pad) (offset + place))

/-- The bytes of a text from an offset on, `size` being the size of the whole text. Every group but
the last holds four symbols. -/
def decodeFrom (size offset : Nat) : Bytes → Except Fault Bytes
  | [] => .ok []
  | a :: b :: c :: d :: e :: rest => do
    let numbers ← values offset [a, b, c, d]
    let more ← decodeFrom size (offset + 4) (e :: rest)
    return (lastBytes? numbers).getD [] ++ more
  | group => decodeLast size offset group

/-- The bytes that a base64 text stands for. A single byte after the last whole group is refused
before anything else, unless it could be a symbol or a fill byte. -/
def decodeBytes (text : Bytes) : Except Fault Bytes :=
  match text.getLast? with
  | some last =>
    if text.length % 4 = 1 ∧ last ≠ pad ∧ value? last = none then
      .error (.symbol last (text.length - 1))
    else decodeFrom text.length 0 text
  | none => .ok []

/-- The bytes that a base64 text stands for. -/
def decode (text : String) : Except Fault Bytes :=
  decodeBytes (Text.utf8 text)

end SatelliteTrack.Base64
