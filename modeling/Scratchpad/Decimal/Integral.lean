import Scratchpad.Decimal.Binary

/-!
# Doubles and whole numbers

The whole part of a double, its residue modulo a power of two, and the remainder of a division,
each exact.
-/
namespace Scratchpad.Decimal

/-- The double of a natural number, rounded to nearest. -/
def ofNat (value : Nat) : Float :=
  if value < Nat.pow 2 53 then Float.ofNat value else Float.ofScientific value false 0

/-- The double of a whole number, rounded to nearest. -/
def ofInt (value : Int) : Float :=
  if value < 0 then -ofNat value.natAbs else ofNat value.natAbs

/-- The double of a mantissa with a power of two that a double can hold exactly. -/
def ofBinary (mantissa : Nat) (exponent : Int) : Float :=
  let excess := mantissa.log2 - 60
  Float.scaleB (Float.ofNat (mantissa / Nat.pow 2 excess)) (exponent + excess)

/-- The whole part of a finite double, toward zero. -/
def truncate? (value : Float) : Option Int :=
  match Parts.of value with
  | .finite negative mantissa exponent =>
    let whole := if exponent ≥ 0 then mantissa * Nat.pow 2 exponent.toNat
      else mantissa / Nat.pow 2 (-exponent).toNat
    some (if negative then -(whole : Int) else whole)
  | _ => none

/-- Whether a double is whole and finite. -/
def isWhole (value : Float) : Bool := !value.isNaN && !value.isInf && value.floor == value

/-- The whole part of a double modulo a power of two, zero for one that is not finite. -/
def residue (bits : Nat) (value : Float) : Nat :=
  match truncate? value with
  | some whole => (whole % Nat.pow 2 bits).toNat
  | none => 0

/-- A double as an unsigned word of 32 bits. -/
def toUInt32 (value : Float) : UInt32 :=
  if value.abs < 2147483648.0 then value.toInt32.toUInt32 else (residue 32 value).toUInt32

/-- A double as a signed word of 32 bits. -/
def toInt32 (value : Float) : Int32 := (toUInt32 value).toInt32

/-- The double of a signed word. -/
def ofInt32 (value : Int32) : Float := Float.ofInt value.toInt

/-- The double of an unsigned word. -/
def ofUInt32 (value : UInt32) : Float := Float.ofNat value.toNat

/-- The remainder of a division of finite doubles in exact arithmetic. -/
def exactRemainder (dividend divisor : Float) : Float :=
  match Parts.of dividend, Parts.of divisor with
  | .nan, _ | _, .nan | .infinite _, _ => 0.0 / 0.0
  | .finite .., .infinite _ => dividend
  | .finite negative m p, .finite _ n q =>
    if n = 0 then 0.0 / 0.0
    else
      let scale := min p q
      let rest := (m * Nat.pow 2 (p - scale).toNat) % (n * Nat.pow 2 (q - scale).toNat)
      let result := ofBinary rest scale
      if negative then -result else result

/-- Whether a double is a natural number that fits into a word. -/
def isSmallNat (value : Float) : Bool :=
  0.0 ≤ value && value ≤ 9007199254740991.0 && value.floor == value

/-- The remainder of a division, with the sign of the dividend. -/
def remainder (dividend divisor : Float) : Float :=
  if isSmallNat dividend && isSmallNat divisor && divisor != 0.0 && dividend.toBits >>> 63 = 0 then
    (dividend.toUInt64 % divisor.toUInt64).toFloat
  else exactRemainder dividend divisor

end Scratchpad.Decimal
