/-!
# Doubles as exact numbers

A finite double is a whole number scaled by a power of two. Everything that writes a double in
decimal works on this form, so that no rounding is left to arithmetic on doubles.
-/
namespace Scratchpad.Decimal

/-- A double taken apart. -/
inductive Parts where
  | nan
  | infinite (negative : Bool)
  /-- The number `mantissa * 2 ^ exponent` with a sign. -/
  | finite (negative : Bool) (mantissa : Nat) (exponent : Int)
deriving DecidableEq, Repr

/-- The parts of a double. -/
def Parts.of (value : Float) : Parts :=
  let bits := value.toBits.toNat
  let negative := bits / Nat.pow 2 63 = 1
  let biased : Nat := bits / Nat.pow 2 52 % Nat.pow 2 11
  let fraction := bits % Nat.pow 2 52
  if biased = 2047 then if fraction = 0 then .infinite negative else .nan
  else if biased = 0 then .finite negative fraction (-1074)
  else .finite negative (Nat.pow 2 52 + fraction) ((biased : Int) - 1075)

/-- A fraction of natural numbers. -/
structure Ratio where
  num : Nat
  den : Nat
deriving Repr

/-- The exact value of a mantissa with a power of two. -/
def Ratio.ofBinary (mantissa : Nat) (exponent : Int) : Ratio :=
  if exponent ≥ 0 then ⟨mantissa * Nat.pow 2 exponent.toNat, 1⟩
  else ⟨mantissa, Nat.pow 2 (-exponent).toNat⟩

/-- A fraction multiplied by a power of ten. -/
def Ratio.scale (ratio : Ratio) (power : Int) : Ratio :=
  if power ≥ 0 then ⟨ratio.num * Nat.pow 10 power.toNat, ratio.den⟩
  else ⟨ratio.num, ratio.den * Nat.pow 10 (-power).toNat⟩

/-- The whole part of a fraction. -/
def Ratio.floor (ratio : Ratio) : Nat := ratio.num / ratio.den

/-- The whole number nearest to a fraction, a half going up. -/
def Ratio.round (ratio : Ratio) : Nat := (2 * ratio.num + ratio.den) / (2 * ratio.den)

/-- Whether one fraction is less than another. -/
def Ratio.less (first second : Ratio) : Bool := first.num * second.den < second.num * first.den

/-- Whether one fraction is at most another. -/
def Ratio.atMost (first second : Ratio) : Bool := first.num * second.den ≤ second.num * first.den

/-- Raise an estimate until the fraction is below that power of ten. -/
def raise (ratio : Ratio) : Nat → Int → Int
  | 0, power => power
  | fuel + 1, power =>
    if Ratio.less ratio ((Ratio.mk 1 1).scale power) then power else raise ratio fuel (power + 1)

/-- Lower an estimate while the fraction is below the power of ten before it. -/
def lower (ratio : Ratio) : Nat → Int → Int
  | 0, power => power
  | fuel + 1, power =>
    if Ratio.less ratio ((Ratio.mk 1 1).scale (power - 1)) then lower ratio fuel (power - 1)
    else power

/-- The least power of ten above a mantissa with a power of two, that is, the number of its digits
before the point. -/
def magnitude (mantissa : Nat) (exponent : Int) : Int :=
  let estimate := ((mantissa.log2 : Int) + exponent) * 30103 / 100000
  let ratio := Ratio.ofBinary mantissa exponent
  raise ratio 4 (lower ratio 4 estimate)

end Scratchpad.Decimal
