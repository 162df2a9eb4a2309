/-!
# A finite double as an exact number

A finite double stands for `mantissa · 2 ^ exponent`, with a sign. `Binary` is that reading, and
`Binary.covers` says which decimals round to it: the ones between halfway to the neighbour below and
halfway to the neighbour above, the two ends included when the mantissa is even. Everything is
decided in natural numbers, so that a decimal is compared with a bound exactly.
-/

namespace SatelliteTrack.Decimal

/-- The size of a finite double: `mantissa · 2 ^ exponent`. -/
structure Binary where
  mantissa : Nat
  exponent : Int
  /-- The gap to the double below is half the gap to the double above. -/
  narrowBelow : Bool
deriving DecidableEq, Repr

/-- A decimal: `digits · 10 ^ exponent`. -/
structure Scaled where
  digits : Nat
  exponent : Int
deriving DecidableEq, Repr

/-- What the bits of a double say. -/
inductive Reading where
  | notANumber
  | infinite (negative : Bool)
  | finite (negative : Bool) (size : Binary)
deriving DecidableEq, Repr

/-- The reading of a double, from the three fields of its bits: sign, exponent and fraction. -/
def Reading.ofFloat (x : Float) : Reading :=
  let bits := x.toBits.toNat
  let negative := bits / 0x8000000000000000 == 1
  let exponent : Nat := bits / 0x10000000000000 % 0x800
  let fraction : Nat := bits % 0x10000000000000
  if exponent == 2047 then
    if fraction == 0 then .infinite negative else .notANumber
  else if exponent == 0 then .finite negative ⟨fraction, -1074, false⟩
  else .finite negative ⟨0x10000000000000 + fraction, (exponent : Int) - 1075, fraction == 0 && 1 < exponent⟩

/-- The order of `digits · 10 ^ i` and `mantissa · 2 ^ j`, by cross-multiplication. -/
def compareScaled (digits : Nat) (i : Int) (mantissa : Nat) (j : Int) : Ordering :=
  compare (digits * Nat.pow 10 i.toNat * Nat.pow 2 (-j).toNat)
    (mantissa * Nat.pow 2 j.toNat * Nat.pow 10 (-i).toNat)

/-- The decimal is one of those that round to this double. The two bounds are in quarters of the
mantissa's unit, so that the narrow gap below a power of two is a whole number too. -/
def Binary.covers (x : Binary) (d : Scaled) : Bool :=
  let low := if x.narrowBelow then 4 * x.mantissa - 1 else 4 * x.mantissa - 2
  let high := 4 * x.mantissa + 2
  let closed := x.mantissa % 2 == 0
  let atLow := compareScaled d.digits d.exponent low (x.exponent - 2)
  let atHigh := compareScaled d.digits d.exponent high (x.exponent - 2)
  (atLow == .gt || (closed && atLow == .eq)) && (atHigh == .lt || (closed && atHigh == .eq))

/-- The size as a fraction of natural numbers. -/
def Binary.fraction (x : Binary) : Nat × Nat :=
  (x.mantissa * Nat.pow 2 x.exponent.toNat, Nat.pow 2 (-x.exponent).toNat)

end SatelliteTrack.Decimal
