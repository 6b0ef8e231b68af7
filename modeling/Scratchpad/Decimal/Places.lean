import Scratchpad.Decimal.Integral
import Scratchpad.Decimal.Shortest

/-!
# Numbers in decimal and other bases

How a number is written in a script: positionally while its point lies within 21 places, with an
exponent otherwise; and the forms with a fixed number of places or digits, a half going up. Any
base from 2 to 36 is written positionally.
-/
namespace Scratchpad.Decimal

/-- The decimal digits of a natural number. -/
def digitChars (value : Nat) : List Char := Nat.toDigits 10 value

/-- A number of zeros. -/
def zeros (count : Nat) : List Char := List.replicate count '0'

/-- Digits with a point after the first `point` of them. -/
def insertPoint (point : Nat) (digits : List Char) : List Char :=
  digits.take point ++ '.' :: digits.drop point

/-- An exponent with its mark and sign. -/
def exponentChars (power : Int) : List Char :=
  'e' :: (if power < 0 then '-' else '+') :: digitChars power.natAbs

/-- Digits with a point after the first and an exponent. -/
def scientific (digits : List Char) (power : Int) : List Char :=
  (if digits.length ≤ 1 then digits else insertPoint 1 digits) ++ exponentChars power

/-- Digits whose first `point` stand before the point, zeros filling what is missing. -/
def positional (digits : List Char) (point : Int) : List Char :=
  if point ≤ 0 then '0' :: '.' :: zeros (-point).toNat ++ digits
  else if digits.length ≤ point.toNat then digits ++ zeros (point.toNat - digits.length)
  else insertPoint point.toNat digits

/-- The most places before the point that are written positionally. -/
def maxPlaces : Int := 21

/-- The most zeros after the point that are written positionally. -/
def maxZeros : Int := 6

/-- A decimal in the form of a script. -/
def Digits.chars (decimal : Digits) : List Char :=
  let digits := digitChars decimal.digits
  let point := decimal.power + digits.length
  if -maxZeros < point ∧ point ≤ maxPlaces then positional digits point
  else scientific digits (point - 1)

/-- Characters with a sign in front. -/
def signed (negative : Bool) (chars : List Char) : String :=
  String.ofList (if negative then '-' :: chars else chars)

/-- The text of a double; both zeros are written alike. -/
def text (value : Float) : String :=
  match Parts.of value with
  | .nan => "NaN"
  | .infinite negative => signed negative "Infinity".toList
  | .finite negative mantissa exponent =>
    if mantissa = 0 then "0"
    else if value.abs < 9007199254740992.0 && value.floor == value then
      signed negative (digitChars value.abs.toUInt64.toNat)
    else signed negative (shortest mantissa exponent).chars

/-! ## The form of a listing -/

/-- Whether a listing writes a number of this many places before the point positionally. -/
def isListedPositionally (point : Int) : Bool := -3 ≤ point && point ≤ 16

/-- A decimal in the form of a listing for programmers, where a whole number has a point as well. -/
def Digits.listedChars (decimal : Digits) : List Char :=
  let digits := digitChars decimal.digits
  let point := decimal.power + digits.length
  if isListedPositionally point then
    positional digits point ++ if digits.length ≤ point then ['.', '0'] else []
  else
    (if digits.length ≤ 1 then digits else insertPoint 1 digits) ++ 'e' ::
      (toString (point - 1)).toList

/-- The text of a double in a listing for programmers. -/
def listed (value : Float) : String :=
  match Parts.of value with
  | .nan => "NaN"
  | .infinite negative => signed negative "inf".toList
  | .finite negative mantissa exponent =>
    if mantissa = 0 then signed negative "0.0".toList
    else signed negative (shortest mantissa exponent).listedChars

/-- A natural number of the given scale with a fixed number of places after the point. -/
def withPlaces (places value : Nat) : List Char :=
  let digits := digitChars value
  let digits := zeros (places + 1 - digits.length) ++ digits
  if places = 0 then digits else insertPoint (digits.length - places) digits

/-- A finite double with a fixed number of places after the point. -/
def fixed (places : Nat) (value : Float) : String :=
  match Parts.of value with
  | .finite negative mantissa exponent =>
    let scaled := ((Ratio.ofBinary mantissa exponent).scale places).round
    signed (negative && (scaled ≠ 0 || mantissa ≠ 0)) (withPlaces places scaled)
  | _ => text value

/-- The digits of a double rounded to a number of them, and its power of ten after the first. -/
def significant (count : Nat) (mantissa : Nat) (exponent : Int) : Nat × Int :=
  if mantissa = 0 then (0, 0)
  else
    let size := magnitude mantissa exponent
    let rounded := ((Ratio.ofBinary mantissa exponent).scale (count - size)).round
    if rounded ≥ Nat.pow 10 count then (rounded / 10, size) else (rounded, size - 1)

/-- A finite double with an exponent and a number of places, the fewest that are read back if no
number is given. -/
def exponential (places : Option Nat) (value : Float) : String :=
  match Parts.of value with
  | .finite negative mantissa exponent =>
    let (digits, power) := match places with
      | some places =>
        let (digits, power) := significant (places + 1) mantissa exponent
        let digits := digitChars digits
        (digits ++ zeros (places + 1 - digits.length), power)
      | none =>
        let decimal := shortest mantissa exponent
        let digits := digitChars decimal.digits
        (digits, if mantissa = 0 then 0 else decimal.power + digits.length - 1)
    signed (negative && mantissa ≠ 0) (scientific digits power)
  | _ => text value

/-- A finite double with a number of digits in all. -/
def precise (count : Nat) (value : Float) : String :=
  match Parts.of value with
  | .finite negative mantissa exponent =>
    let (digits, power) := significant count mantissa exponent
    let digits := digitChars digits
    let digits := digits ++ zeros (count - digits.length)
    let chars := if power < -maxZeros ∨ power ≥ count then scientific digits power
      else if power < 0 then '0' :: '.' :: zeros (-power - 1).toNat ++ digits
      else if power + 1 = count then digits else insertPoint (power + 1).toNat digits
    signed (negative && mantissa ≠ 0) chars
  | _ => text value

/-! ## Other bases -/

/-- The digit of a value below 36. -/
def baseDigit (value : Nat) : Char :=
  if value < 10 then Char.ofNat (48 + value) else Char.ofNat (87 + value)

/-- The digits of a natural number in a base, in front of others. -/
def baseDigitsFrom (base : Nat) : Nat → Nat → List Char → List Char
  | 0, _, found => found
  | fuel + 1, value, found =>
    if value < base then baseDigit value :: found
    else baseDigitsFrom base fuel (value / base) (baseDigit (value % base) :: found)

/-- The digits of a natural number in a base. -/
def baseDigits (base value : Nat) : List Char := baseDigitsFrom base (value.log2 + 1) value []

/-- The digits of a fraction in a base, until what is left is within the distance at which it would
be read back; the last digit is rounded. -/
def fractionDigits (base : Nat) : Nat → Ratio → Ratio → List Nat → List Nat
  | 0, _, _, found => found
  | fuel + 1, rest, distance, found =>
    let rest := Ratio.mk (rest.num * base) rest.den
    let distance := Ratio.mk (distance.num * base) distance.den
    let digit := rest.floor
    let rest := Ratio.mk (rest.num % rest.den) rest.den
    let gap := Ratio.mk (rest.den - rest.num) rest.den
    let low := Ratio.less rest distance
    let high := Ratio.less gap distance
    if rest.num = 0 then digit :: found
    else if low || high then
      (if 2 * rest.num > rest.den || (high && !low) then digit + 1 else digit) :: found
    else fractionDigits base fuel rest distance (digit :: found)

/-- Carry a digit that reached the base into the one before it; the flag is the last carry. -/
def carryDigits (base : Nat) : List Nat → Bool → List Nat → Bool × List Nat
  | [], carry, done => (carry, done)
  | digit :: earlier, carry, done =>
    let digit := if carry then digit + 1 else digit
    if digit ≥ base then carryDigits base earlier true ((digit - base) :: done)
    else carryDigits base earlier false (digit :: done)

/-- A double in a base. -/
def inBase (base : Nat) (value : Float) : String :=
  match Parts.of value with
  | .finite negative mantissa exponent =>
    let ratio := Ratio.ofBinary mantissa exponent
    let whole := ratio.floor
    let rest := Ratio.mk (ratio.num % ratio.den) ratio.den
    if rest.num = 0 then signed (negative && mantissa ≠ 0) (baseDigits base whole)
    else
      let distance := (Ratio.ofBinary 1 (exponent - 1))
      let (carry, digits) := carryDigits base (fractionDigits base 1100 rest distance []) false []
      let whole := if carry then whole + 1 else whole
      let digits := (digits.reverse.dropWhile (· = 0)).reverse.map baseDigit
      signed negative (baseDigits base whole ++ if digits.isEmpty then [] else '.' :: digits)
  | _ => text value

/-- A whole number in a base. -/
def wholeInBase (base : Nat) (value : Int) : String :=
  signed (value < 0) (baseDigits base value.natAbs)

end Scratchpad.Decimal
