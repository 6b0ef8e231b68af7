import Scratchpad.Decimal.Binary

/-!
# The shortest decimal of a double

The decimal with the fewest digits among those that are read back as a given double, and of these
the nearest to it. A decimal is read back as a double exactly when it lies between the points
halfway to the two neighbours, the points themselves included if the mantissa is even. If a grid of
decimals has a point there, then one of the two grid points around the double is such a point, so
that only these are tried.
-/
namespace Scratchpad.Decimal

/-- A decimal number: digits scaled by a power of ten. -/
structure Digits where
  digits : Nat
  power : Int
deriving DecidableEq, Repr, Inhabited

/-- The numbers that are read back as a double. -/
structure Interval where
  low : Ratio
  high : Ratio
  /-- Whether the ends belong to it. -/
  closed : Bool

/-- The numbers that are read back as a mantissa with a power of two; below the least mantissa of
an exponent the neighbour is half as far away. -/
def Interval.around (mantissa : Nat) (exponent : Int) : Interval where
  low :=
    if mantissa = Nat.pow 2 52 ∧ exponent > -1074 then Ratio.ofBinary (4 * mantissa - 1) (exponent - 2)
    else Ratio.ofBinary (4 * mantissa - 2) (exponent - 2)
  high := Ratio.ofBinary (4 * mantissa + 2) (exponent - 2)
  closed := mantissa % 2 = 0

/-- Whether a decimal is read back as the double of an interval. -/
def Interval.holds (interval : Interval) (decimal : Digits) : Bool :=
  let ratio := (Ratio.mk decimal.digits 1).scale decimal.power
  if interval.closed then
    Ratio.atMost interval.low ratio && Ratio.atMost ratio interval.high
  else Ratio.less interval.low ratio && Ratio.less ratio interval.high

/-- The better of the two decimals of a grid around a number, if one is read back as it. -/
def onGrid (interval : Interval) (ratio : Ratio) (power : Int) : Option Digits :=
  let scaled := ratio.scale (-power)
  let below : Digits := ⟨scaled.floor, power⟩
  let above : Digits := ⟨scaled.floor + 1, power⟩
  let remainder := scaled.num % scaled.den
  match interval.holds below, interval.holds above with
  | true, true =>
    if 2 * remainder < scaled.den then some below
    else if 2 * remainder > scaled.den then some above
    else if below.digits % 2 = 0 then some below else some above
  | true, false => some below
  | false, true => some above
  | false, false => none

/-- The first grid, from `count` digits on, with a decimal that is read back. -/
def searchGrids (interval : Interval) (ratio : Ratio) (size : Int) : Nat → Int → Digits
  | 0, _ => ⟨ratio.round, 0⟩
  | fuel + 1, count =>
    match onGrid interval ratio (size - count) with
    | some found => found
    | none => searchGrids interval ratio size fuel (count + 1)

/-- Digits without zeros at their end. -/
def Digits.strip : Nat → Digits → Digits
  | 0, decimal => decimal
  | fuel + 1, decimal =>
    if decimal.digits ≠ 0 ∧ decimal.digits % 10 = 0 then
      Digits.strip fuel ⟨decimal.digits / 10, decimal.power + 1⟩
    else decimal

/-- The shortest decimal of a mantissa with a power of two; 17 digits always suffice, and a carry
into a new digit leaves zeros to be stripped. -/
def shortest (mantissa : Nat) (exponent : Int) : Digits :=
  if mantissa = 0 then ⟨0, 0⟩
  else
    Digits.strip 18 (searchGrids (Interval.around mantissa exponent)
      (Ratio.ofBinary mantissa exponent) (magnitude mantissa exponent) 18 1)

end Scratchpad.Decimal
