import Scratchpad.Decimal.Integral

/-!
# Reading decimals

The double nearest to digits with a power of ten. A power so large or so small that no digits of
that length bring the number back into range is settled without computing it.
-/
namespace Scratchpad.Decimal

/-- A power of ten at which every number is too large or too small for a double. -/
def extremePower : Nat := 400

/-- An infinite double. -/
def infinity : Float := 1.0 / 0.0

/-- The double that is no number. -/
def nan : Float := 0.0 / 0.0

/-- The double nearest to digits scaled by a power of ten. -/
def ofDigits (digits : Nat) (power : Int) : Float :=
  let size : Int := power + (digits.log2 * 30103 / 100000 : Nat)
  if digits = 0 then 0.0
  else if size > extremePower then infinity
  else if size < -(extremePower : Int) then 0.0
  else if power ≥ 0 then Float.ofScientific digits false power.toNat
  else Float.ofScientific digits true (-power).toNat

/-- The value of a digit in a base of up to 36. -/
def digitIn? (base : Nat) (code : Nat) : Option Nat :=
  let value :=
    if 48 ≤ code ∧ code ≤ 57 then code - 48
    else if 97 ≤ code ∧ code ≤ 122 then code - 87
    else if 65 ≤ code ∧ code ≤ 90 then code - 55
    else base
  if value < base then some value else none

/-- The number that digits spell in a base; what is no digit counts as zero. -/
def ofBase (base : Nat) (codes : List Nat) : Nat :=
  codes.foldl (fun value code => value * base + (digitIn? base code).getD 0) 0

end Scratchpad.Decimal
