import SatelliteTrack.Decimal.Binary

/-!
# The fewest digits that read back

`Binary.shortest` selects the decimal that a printer of doubles shows: of the decimals that round to
the double, one with the fewest digits, and of those the one nearest to the double. It walks the
decimal grids from coarse to fine and tests, on each, the double's two neighbours; a grid that holds
any decimal of the rounding interval has one of these two in it, so the first grid with a hit has the
fewest digits.
-/

namespace SatelliteTrack.Decimal

/-- What happens to a decimal that lies exactly between two candidates. -/
inductive Tie where
  | toEven
  | up
deriving DecidableEq, Repr

/-- The number of decimal digits of a natural number; none for zero. -/
def digitCount (n : Nat) : Nat :=
  if n = 0 then 0 else (Nat.toDigits 10 n).length

/-- The place of the leading digit: `10 ^ (k - 1) ≤ x < 10 ^ k`. No double is below `10 ^ -400`, so
the digits of `x · 10 ^ 400` before the point tell it. -/
def Binary.scale (x : Binary) : Int :=
  let (num, den) := x.fraction
  (digitCount (num * Nat.pow 10 400 / den) : Int) - 400

/-- The largest grid point `n · 10 ^ place` that is not above the double, as `n`. -/
def Binary.below (x : Binary) (place : Int) : Nat :=
  let (num, den) := x.fraction
  num * Nat.pow 10 (-place).toNat / (den * Nat.pow 10 place.toNat)

/-- How the double lies between the grid points `n` and `n + 1`: nearer to the first, nearer to the
second, or halfway. -/
def Binary.halfway (x : Binary) (n : Nat) (place : Int) : Ordering :=
  let (num, den) := x.fraction
  compare (2 * (num * Nat.pow 10 (-place).toNat)) ((2 * n + 1) * (den * Nat.pow 10 place.toNat))

/-- The decimal chosen on one grid, if a neighbour of the double on it reads back. -/
def Binary.onGrid (tie : Tie) (x : Binary) (place : Int) : Option Scaled :=
  let n := x.below place
  let lower : Scaled := ⟨n, place⟩
  let upper : Scaled := ⟨n + 1, place⟩
  match x.covers lower, x.covers upper with
  | true, true =>
    match x.halfway n place, tie with
    | .lt, _ => some lower
    | .gt, _ => some upper
    | .eq, .up => some upper
    | .eq, .toEven => some (if n % 2 == 0 then lower else upper)
  | true, false => some lower
  | false, true => some upper
  | false, false => none

/-- Trailing zeros of the digits go into the exponent; `fuel` bounds their number. -/
def Scaled.strip : Nat → Scaled → Scaled
  | 0, d => d
  | fuel + 1, d =>
    if d.digits ≠ 0 ∧ d.digits % 10 = 0 then Scaled.strip fuel ⟨d.digits / 10, d.exponent + 1⟩ else d

/-- The double itself as a decimal: `m / 2 ^ k` is `m · 5 ^ k / 10 ^ k`. -/
def Binary.exact (x : Binary) : Scaled :=
  ⟨x.mantissa * Nat.pow 2 x.exponent.toNat * Nat.pow 5 (-x.exponent).toNat,
    -((-x.exponent).toNat : Int)⟩

/-- The decimal with the fewest digits that rounds to the double, the nearest one of these. Seventeen
digits always suffice; the exact value stands behind them, so that no digit is ever guessed. -/
def Binary.shortest (tie : Tie) (x : Binary) : Scaled :=
  let scale := x.scale
  let found := (List.range 17).findSome? fun (n : Nat) => x.onGrid tie (scale - (n + 1))
  let d := found.getD x.exact
  d.strip (digitCount d.digits)

end SatelliteTrack.Decimal
