import SatelliteTrack.Decimal.Reader
import SatelliteTrack.Text.Hex
import SatelliteTrack.Json.Fault

/-!
# The words of JSON

Scanners for the parts of a text that hold no other values: blanks, the three names, strings and
numbers. A scanner takes its part off the front of the text and answers with what it stands for and
with the rest, or with the first fault it meets.

A number is first split into its digits (`Literal`) and then valued. The value of a fraction is not
always the nearest double: the digits are gathered in 64 bits, and one multiplication or division by a
power of ten follows, so that the last bit may be off by one. `Literal.number?` says it exactly.
-/

namespace SatelliteTrack.Json

/-- What a scanner answers: what was read and the rest of the text, or the first fault. -/
abbrev Scan (α : Type) := Except Fault (α × List Char)

/-- A written number: digits before the point, digits after it if there is one, and the written
exponent with its sign. -/
structure Literal where
  negative : Bool
  whole : List Char
  fraction : Option (List Char)
  exponent : Option (Bool × List Char)

/-! ## The value of a number -/

/-- The greatest number of 64 bits. -/
def greatestSignificand : Nat := 0xffffffffffffffff

/-- The greatest written exponent that is taken at its word. -/
def greatestExponent : Nat := 0x7fffffff

/-- Digits gathered onto a significand as long as it keeps to 64 bits: the significand and the digits
that no longer fit. -/
def gather (significand : Nat) : List Char → Nat × List Char
  | [] => (significand, [])
  | c :: cs =>
    let next := significand * 10 + (c.toNat - '0'.toNat)
    if next ≤ greatestSignificand then gather next cs else (significand, c :: cs)

/-- The nearest double to a power of ten, for exponents from 0 to 308. -/
def powerOfTen (n : Nat) : Float := Float.ofScientific 1 false n

/-- A double divided by a power of ten. Beyond `10 ^ 308` the division goes in steps, until the rest of
the exponent is small enough or nothing is left to divide. -/
def scaleDown (x : Float) (exponent : Nat) : Float :=
  if exponent ≤ 308 then x / powerOfTen exponent
  else if x == 0.0 then x
  else scaleDown (x / powerOfTen 308) (exponent - 308)
termination_by exponent

/-- The size of a number from its significand and its exponent; none if it is too large. -/
def scaled? (significand : Nat) (exponent : Int) : Option Float :=
  let x := significand.toUInt64.toFloat
  if exponent < 0 then some (scaleDown x exponent.natAbs)
  else if exponent ≤ 308 then
    let y := x * powerOfTen exponent.toNat
    if y.isInf then none else some y
  else if x == 0.0 then some x
  else none

namespace Literal

/-- The significand and the exponent that the digits give, without the written exponent. Digits before
the point that no longer fit raise the exponent, digits after it that are gathered lower it. -/
def significand (l : Literal) : Nat × Int :=
  let (whole, dropped) := gather 0 l.whole
  let fraction := l.fraction.getD []
  let (all, unread) := gather whole fraction
  (all, (dropped.length : Int) - (fraction.length - unread.length : Nat))

/-- The size of the number as a double. An exponent that is too great to be taken at its word leaves
zero, or is out of range. -/
def size? (l : Literal) : Option Float :=
  let (significand, start) := l.significand
  match l.exponent with
  | none => scaled? significand start
  | some (minus, digits) =>
    let n := Decimal.digitsValue 0 digits
    if greatestExponent < n then
      if significand ≠ 0 ∧ !minus then none else some 0.0
    else scaled? significand (if minus then start - n else start + n)

/-- The number is written without point and exponent, and its digits keep to 64 bits. -/
def isWhole (l : Literal) : Bool :=
  l.fraction.isNone && l.exponent.isNone && (gather 0 l.whole).2.isEmpty

/-- The number that was written; none if it is too large. A negative whole number of more than 63 bits,
and zero with a sign, are doubles. -/
def number? (l : Literal) : Option Number :=
  if l.isWhole then
    let n := l.significand.1
    if !l.negative then some (.natural n)
    else if n = 0 ∨ 0x8000000000000000 < n then some (.real (-n.toUInt64.toFloat))
    else some (.negative n)
  else l.size?.map fun x => .real (if l.negative then -x else x)

end Literal

namespace Scan

/-! ## Blanks and names -/

/-- The characters that may stand between the words. -/
def isSpace (c : Char) : Bool := c == ' ' || c == '\n' || c == '\t' || c == '\r'

/-- The text after its leading blanks. -/
def skipSpace (cs : List Char) : List Char := cs.dropWhile isSpace

/-- The rest after a name of which `word` is left to read. -/
def keyword : (word : List Char) → List Char → Except Fault (List Char)
  | [], cs => .ok cs
  | _ :: _, [] => .error .endOfValue
  | w :: word, c :: cs => if c = w then keyword word cs else .error .expectedIdent

/-! ## Strings -/

/-- The number of four hexadecimal digits at the front. A text with fewer than four bytes left has
ended; four bytes that are not all digits are no escape. -/
def fourDigits (cs : List Char) : Except Fault Nat :=
  match cs with
  | a :: b :: c :: d :: _ =>
    match Text.hexValue? a, Text.hexValue? b, Text.hexValue? c, Text.hexValue? d with
    | some a, some b, some c, some d => .ok (((a * 16 + b) * 16 + c) * 16 + d)
    | _, _, _, _ => .error .invalidEscape
  | _ => .error (if (String.ofList cs).utf8ByteSize < 4 then .endOfString else .invalidEscape)

/-- The unit opens a pair of units that together are one character. -/
def isHighSurrogate (n : Nat) : Bool := 0xd800 ≤ n && n ≤ 0xdbff

/-- The unit closes a pair. -/
def isLowSurrogate (n : Nat) : Bool := 0xdc00 ≤ n && n ≤ 0xdfff

/-- The character of an escape by number, and how many characters of the text it takes after the
letter `u`. -/
def numberedEscape (cs : List Char) : Except Fault (Char × Nat) := do
  let first ← fourDigits cs
  if isLowSurrogate first then throw .loneSurrogate
  if !isHighSurrogate first then return (Char.ofNat first, 4)
  match cs.drop 4 with
  | [] => throw .endOfString
  | ['\\'] => throw .endOfString
  | '\\' :: 'u' :: rest =>
    let second ← fourDigits rest
    if isLowSurrogate second then
      return (Char.ofNat (0x10000 + (first - 0xd800) * 0x400 + (second - 0xdc00)), 10)
    else throw .loneSurrogate
  | _ => throw .endOfHexEscape

/-- The character of an escape by letter. -/
def letterEscape? : Char → Option Char
  | '"' => some '"'
  | '\\' => some '\\'
  | '/' => some '/'
  | 'b' => some '\x08'
  | 'f' => some '\x0c'
  | 'n' => some '\n'
  | 'r' => some '\r'
  | 't' => some '\t'
  | _ => none

/-- The character of an escape, and how many characters of the text it takes after the backslash. -/
def escape : List Char → Except Fault (Char × Nat)
  | [] => .error .endOfString
  | 'u' :: rest => (numberedEscape rest).map fun (c, taken) => (c, taken + 1)
  | letter :: _ =>
    match letterEscape? letter with
    | some c => .ok (c, 1)
    | none => .error .invalidEscape

/-- The rest of a string, of which `read` holds the characters so far, the last one first. An escape
is read ahead; `taken` counts its characters that are still to be passed over. -/
def stringFrom (read : List Char) : (taken : Nat) → List Char → Scan String
  | _, [] => .error .endOfString
  | taken + 1, _ :: cs => stringFrom read taken cs
  | 0, c :: cs =>
    if c = '"' then .ok (String.ofList read.reverse, cs)
    else if c = '\\' then
      match escape cs with
      | .error fault => .error fault
      | .ok (d, taken) => stringFrom (d :: read) taken cs
    else if c.toNat < 0x20 then .error .controlCharacter
    else stringFrom (c :: read) 0 cs

/-- A string whose opening quote has been read. -/
def string (cs : List Char) : Scan String := stringFrom [] 0 cs

/-- How many characters an escape takes in a string that is passed over: any four digits will do. -/
def escapeLength : List Char → Except Fault Nat
  | [] => .error .endOfString
  | 'u' :: rest => (fourDigits rest).map fun _ => 5
  | letter :: _ => if (letterEscape? letter).isSome then .ok 1 else .error .invalidEscape

/-- The text after a string that is passed over, its opening quote having been read. -/
def passString : (taken : Nat) → List Char → Except Fault (List Char)
  | _, [] => .error .endOfString
  | taken + 1, _ :: cs => passString taken cs
  | 0, c :: cs =>
    if c = '"' then .ok cs
    else if c = '\\' then
      match escapeLength cs with
      | .error fault => .error fault
      | .ok taken => passString taken cs
    else if c.toNat < 0x20 then .error .controlCharacter
    else passString 0 cs

/-! ## Numbers in a text -/

/-- At least one digit; otherwise the text has ended or the number is wrong. -/
def someDigits (atEnd : Fault) (cs : List Char) : Scan (List Char) :=
  match cs with
  | [] => .error atEnd
  | c :: _ =>
    if c.isDigit then .ok (cs.takeWhile Char.isDigit, cs.dropWhile Char.isDigit)
    else .error .invalidNumber

/-- The digits before the point: a single zero, or digits that do not begin with one. -/
def wholeDigits (atEnd : Fault) : List Char → Scan (List Char)
  | '0' :: cs =>
    match cs with
    | c :: _ => if c.isDigit then .error .invalidNumber else .ok (['0'], cs)
    | [] => .ok (['0'], cs)
  | cs => someDigits atEnd cs

/-- The digits after a point, if there is one. -/
def fractionDigits (atEnd : Fault) : List Char → Scan (Option (List Char))
  | '.' :: cs => (someDigits atEnd cs).map fun (digits, rest) => (some digits, rest)
  | cs => .ok (none, cs)

/-- The exponent, if there is one: its sign (true for minus) and its digits. -/
def exponentDigits (atEnd : Fault) : List Char → Scan (Option (Bool × List Char))
  | [] => .ok (none, [])
  | mark :: cs =>
    if mark = 'e' ∨ mark = 'E' then
      let (minus, digits) := match cs with
        | '-' :: more => (true, more)
        | '+' :: more => (false, more)
        | more => (false, more)
      (someDigits atEnd digits).map fun (digits, rest) => (some (minus, digits), rest)
    else .ok (none, mark :: cs)

/-- A number at the front of the text. -/
def literal (atEnd : Fault) (cs : List Char) : Except Fault (Literal × List Char) := do
  let (negative, cs) := match cs with
    | '-' :: more => (true, more)
    | _ => (false, cs)
  let (whole, cs) ← wholeDigits atEnd cs
  let (fraction, cs) ← fractionDigits atEnd cs
  let (exponent, cs) ← exponentDigits atEnd cs
  return (⟨negative, whole, fraction, exponent⟩, cs)

/-- The number at the front of the text. -/
def number (cs : List Char) : Except Fault (Number × List Char) := do
  let (written, rest) ← literal .endOfValue cs
  match written.number? with
  | some n => return (n, rest)
  | none => throw .numberOutOfRange

/-- The text after a number that is passed over; a number that breaks off is as wrong as any other. -/
def passNumber (cs : List Char) : Except Fault (List Char) :=
  (literal .invalidNumber cs).map Prod.snd

end Scan

end SatelliteTrack.Json
