import Scratchpad.Script.Library.Arguments
import Scratchpad.Script.Operator

/-!
# Mathematical functions

The functions on numbers that belong to no number.
-/
namespace Scratchpad.Script

/-- Whether a number is negative, zero included. -/
def isNegative (value : Float) : Bool := value.toBits >>> 63 = 1

/-- A number rounded to the nearest whole one, a half upwards. -/
def roundHalfUp (value : Float) : Float :=
  if value.isNaN || value.isInf || value == 0.0 then value
  else
    let below := value.floor
    let rounded := if value - below ≥ 0.5 then below + 1.0 else below
    if rounded == 0.0 && isNegative value then -0.0 else rounded

/-- A number without its fraction, its sign kept. -/
def truncated (value : Float) : Float := if isNegative value then value.ceil else value.floor

/-- The sign of a number. -/
def signOf (value : Float) : Float :=
  if value.isNaN || value == 0.0 then value else if value > 0.0 then 1.0 else -1.0

/-- A power of e less one, exact near zero. -/
def expLessOne (value : Float) : Float :=
  let power := value.exp
  if power == 1.0 then value
  else if power - 1.0 == -1.0 then -1.0
  else if power.isInf || value.abs > 1.0 then power - 1.0
  else (power - 1.0) * value / power.log

/-- The logarithm of a number greater by one, exact near zero. -/
def logOfOneMore (value : Float) : Float :=
  let sum := 1.0 + value
  if sum == 1.0 then value
  else if sum.isInf then sum.log
  else sum.log * value / (sum - 1.0)

/-- The greater one of two numbers; no number wins. -/
def greater (first second : Float) : Float :=
  if first.isNaN || second.isNaN then Decimal.nan
  else if first == 0.0 && second == 0.0 then if isNegative first then second else first
  else if first < second then second else first

/-- The lesser one of two numbers; no number wins. -/
def lesser (first second : Float) : Float :=
  if first.isNaN || second.isNaN then Decimal.nan
  else if first == 0.0 && second == 0.0 then if isNegative first then first else second
  else if second < first then second else first

/-- The root of the sum of the squares of numbers. -/
def hypotenuse (values : List Float) : Float :=
  if values.any Float.isInf then Decimal.infinity
  else if values.any Float.isNaN then Decimal.nan
  else
    let scale := values.foldl (fun scale value => greater scale value.abs) 0.0
    if scale == 0.0 then 0.0
    else scale * (values.foldl (fun sum value =>
      sum + (value / scale) * (value / scale)) 0.0).sqrt

/-- The state of the source of random numbers after a step. -/
def nextSeed (seed : UInt64) : UInt64 :=
  let seed := seed ^^^ (seed >>> 12)
  let seed := seed ^^^ (seed <<< 25)
  seed ^^^ (seed >>> 27)

/-- A random number from zero up to one. -/
def randomNumber [Machine] : Eval Float :=
  .change fun memory =>
    let seed := nextSeed memory.seed
    ((((seed * 0x2545F4914F6CDD1D) >>> 11).toFloat / 9007199254740992.0), { memory with seed })

/-- The number of zeros in front of a word of 32 bits. -/
def leadingZeros (word : UInt32) : Nat := if word = 0 then 32 else 31 - word.toNat.log2

/-- A function of one number. -/
def onNumber (function : MathFunction) (value : Float) : Float :=
  match function with
  | .abs => value.abs
  | .floor => value.floor
  | .ceil => value.ceil
  | .round => roundHalfUp value
  | .sqrt => value.sqrt
  | .acos => value.acos
  | .asin => value.asin
  | .atan => value.atan
  | .cos => value.cos
  | .exp => value.exp
  | .log => value.log
  | .sin => value.sin
  | .tan => value.tan
  | .trunc => truncated value
  | .sign => signOf value
  | .cosh => value.cosh
  | .sinh => value.sinh
  | .tanh => value.tanh
  | .acosh => value.acosh
  | .asinh => value.asinh
  | .atanh => value.atanh
  | .expm1 => expLessOne value
  | .log1p => logOfOneMore value
  | .log2 => value.log2
  | .log10 => value.log10
  | .cbrt => value.cbrt
  | .fround => value.toFloat32.toFloat
  | .clz32 => Float.ofNat (leadingZeros (Decimal.toUInt32 value))
  | _ => Decimal.nan

/-- Carry out a mathematical function. -/
def runMathFunction [Machine] (function : MathFunction) (invocation : Invocation) :
    Eval Value := do
  match function with
  | .random => return .number (← randomNumber)
  | .max | .min | .hypot =>
    let values ← invocation.arguments.mapM toNumber
    return .number <|
      match function with
      | .max => values.foldl greater (-Decimal.infinity)
      | .min => values.foldl lesser Decimal.infinity
      | _ => hypotenuse values.toList
  | .atan2 | .pow | .imul =>
    let first ← toNumber invocation.first
    let second ← toNumber invocation.second
    return .number <|
      match function with
      | .atan2 => Float.atan2 first second
      | .pow => power first second
      | _ => Decimal.ofInt32 (Decimal.toInt32 first * Decimal.toInt32 second)
  | _ => return .number (onNumber function (← toNumber invocation.first))

end Scratchpad.Script
