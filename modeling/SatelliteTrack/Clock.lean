/-!
# Spans of time and the clock

A `Duration` is a span with nanoseconds. An `Instant` is a reading of a clock whose seconds are kept
in 63 bits: `Instant.after?` is the reading a span later, and there is none when that many seconds
cannot be kept.
-/

namespace SatelliteTrack

/-- The nanoseconds of a second. -/
def secondNanoseconds : Nat := 1000000000

/-- A span of time. -/
structure Duration where
  seconds : Nat
  nanoseconds : Nat
deriving DecidableEq, Repr

namespace Duration

def ofSeconds (n : Nat) : Duration := ⟨n, 0⟩

def isZero (d : Duration) : Bool := d.seconds == 0 && d.nanoseconds == 0

def toNanoseconds (d : Duration) : Nat := d.seconds * secondNanoseconds + d.nanoseconds

def ofNanoseconds (n : Nat) : Duration := ⟨n / secondNanoseconds, n % secondNanoseconds⟩

theorem toNanoseconds_ofNanoseconds (n : Nat) : (ofNanoseconds n).toNanoseconds = n := by
  simp only [ofNanoseconds, toNanoseconds, secondNanoseconds]
  omega

/-- A whole number and a fraction of so many digits, the fraction without trailing zeros. -/
def decimalText (whole fraction places : Nat) : String :=
  let digits := (toString (Nat.pow 10 places + fraction)).toList.drop 1
  let kept := (digits.reverse.dropWhile (· == '0')).reverse
  toString whole ++ if kept.isEmpty then "" else "." ++ String.ofList kept

/-- The span in the largest unit of which it holds at least one. -/
def text (d : Duration) : String :=
  let n := d.nanoseconds
  if 0 < d.seconds then decimalText d.seconds n 9 ++ "s"
  else if 1000000 ≤ n then decimalText (n / 1000000) (n % 1000000) 6 ++ "ms"
  else if 1000 ≤ n then decimalText (n / 1000) (n % 1000) 3 ++ "µs"
  else toString n ++ "ns"

end Duration

/-- A reading of the clock, in nanoseconds from its start. -/
structure Instant where
  nanoseconds : Nat
deriving DecidableEq, Repr

namespace Instant

/-- The greatest number of seconds that the clock can show. -/
def lastSecond : Nat := 0x7fffffffffffffff

/-- The reading a span later, if the clock can show it. -/
def after? (now : Instant) (span : Duration) : Option Instant :=
  let n := now.nanoseconds + span.toNanoseconds
  if n / secondNanoseconds ≤ lastSecond then some ⟨n⟩ else none

/-- The span that is left until a later reading; zero once that has come. -/
def remaining (now later : Instant) : Duration :=
  Duration.ofNanoseconds (later.nanoseconds - now.nanoseconds)

end Instant

end SatelliteTrack
