import SatelliteTrack.Decimal.Layout
import SatelliteTrack.Text.Quoted
import SatelliteTrack.Json.Value

/-!
# Why a text is not the JSON that was wanted

A `Fault` is the first thing that a reader from left to right cannot accept: a fault of the syntax, or
a value of the wrong shape. `Fault.message` is the one place with the wording. A fault does not know where
it is: the place that its text would end with, ` at line 1 column 9`, is left out.
-/

namespace SatelliteTrack.Json

/-- Doubles in JSON: an exponent is used below `0.00001` and from `10 ^ 16` on and carries its sign;
there is no text for the values without digits. -/
def numberLayout : Decimal.Layout where
  positional := some (-4, 16)
  wholePoint := true
  exponentPlus := true
  tie := .toEven
  notANumber := "null"
  infinite := "null"
  negativeInfinite := "null"

/-- The text of a number. -/
def Number.text : Number → String
  | .natural n => toString n
  | .negative n => "-" ++ toString n
  | .real x => numberLayout.text x

/-- What a value is, when another was wanted. -/
inductive Found where
  | null
  | bool (b : Bool)
  | number (n : Number)
  | string (s : String)
  | sequence
  | map

/-- What was wanted. -/
inductive Expected where
  | sequence
  | string
  | number
  | entry
deriving DecidableEq, Repr

/-- The first fault of a text. -/
inductive Fault where
  | endOfValue
  | endOfList
  | endOfObject
  | endOfString
  | expectedValue
  | expectedIdent
  | expectedListCommaOrEnd
  | expectedObjectCommaOrEnd
  | expectedColon
  | trailingComma
  | trailingCharacters
  | keyMustBeString
  | invalidNumber
  | numberOutOfRange
  | invalidEscape
  | controlCharacter
  | loneSurrogate
  | endOfHexEscape
  | invalidCodePoint
  | recursionLimit
  | missingField (name : String)
  | duplicateField (name : String)
  | invalidLength (items : Nat)
  | invalidType (found : Found) (expected : Expected)

def Found.text : Found → String
  | .null => "null"
  | .bool b => "boolean `" ++ (if b then "true" else "false") ++ "`"
  | .number (.real x) => "floating point `" ++ numberLayout.text x ++ "`"
  | .number n => "integer `" ++ n.text ++ "`"
  | .string s => "string " ++ Text.quoted s
  | .sequence => "sequence"
  | .map => "map"

def Expected.text : Expected → String
  | .sequence => "a sequence"
  | .string => "a string"
  | .number => "f64"
  | .entry => "struct ApiMessage"

/-- The fault in words, without its place in the text. -/
def Fault.message : Fault → String
  | .endOfValue => "EOF while parsing a value"
  | .endOfList => "EOF while parsing a list"
  | .endOfObject => "EOF while parsing an object"
  | .endOfString => "EOF while parsing a string"
  | .expectedValue => "expected value"
  | .expectedIdent => "expected ident"
  | .expectedListCommaOrEnd => "expected `,` or `]`"
  | .expectedObjectCommaOrEnd => "expected `,` or `\x7d`"
  | .expectedColon => "expected `:`"
  | .trailingComma => "trailing comma"
  | .trailingCharacters => "trailing characters"
  | .keyMustBeString => "key must be a string"
  | .invalidNumber => "invalid number"
  | .numberOutOfRange => "number out of range"
  | .invalidEscape => "invalid escape"
  | .controlCharacter => "control character (\\u0000-\\u001F) found while parsing a string"
  | .loneSurrogate => "lone leading surrogate in hex escape"
  | .endOfHexEscape => "unexpected end of hex escape"
  | .invalidCodePoint => "invalid unicode code point"
  | .recursionLimit => "recursion limit exceeded"
  | .missingField name => "missing field `" ++ name ++ "`"
  | .duplicateField name => "duplicate field `" ++ name ++ "`"
  | .invalidLength items =>
    "invalid length " ++ toString items ++ ", expected struct ApiMessage with 4 elements"
  | .invalidType found expected =>
    "invalid type: " ++ found.text ++ ", expected " ++ expected.text

end SatelliteTrack.Json
