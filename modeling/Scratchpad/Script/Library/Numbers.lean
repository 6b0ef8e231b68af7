import Scratchpad.Script.Library.Arguments
import Scratchpad.Script.Operator

/-!
# Numbers, truth values and big integers

What the classes of numbers, truth values and big integers offer.
-/
namespace Scratchpad.Script

open Scratchpad.Text (Units)

/-! ## The values behind objects -/

/-- The primitive value that a value is or holds. -/
def unwrapped [Machine] (value : Value) : Eval Value := do
  match value with
  | .object ref =>
    match (← Eval.view (·.object ref)).nature with
    | .wrapper inner => return inner
    | _ => return value
  | _ => return value

/-- The number that a method is called on. -/
def thisNumber [Machine] (value : Value) : Eval Float := do
  match ← unwrapped value with
  | .number value => return value
  | _ => raiseType (.badReceiver "number")

/-- The truth value that a method is called on. -/
def thisBoolean [Machine] (value : Value) : Eval Bool := do
  match ← unwrapped value with
  | .boolean value => return value
  | _ => raiseType (.badReceiver "boolean")

/-- The big integer that a method is called on. -/
def thisBigint [Machine] (value : Value) : Eval Int := do
  match ← unwrapped value with
  | .bigint value => return value
  | _ => raiseType (.badReceiver "BigInt")

/-- A primitive value, or an object that holds it if a new one was asked for. -/
def wrapIfNew [Machine] (invocation : Invocation) (of : StandardClass) (value : Value) :
    Eval Value := do
  if invocation.newTarget.isSome then
    return .object (← makeFor invocation of (.wrapper value))
  else return value

/-! ## Numbers -/

/-- Make a number. -/
def constructNumber [Machine] (invocation : Invocation) : Eval Value := do
  let value ← if invocation.arguments.isEmpty then pure 0.0
    else
      match ← toNumeric invocation.first with
      | .number value => pure value
      | .bigint value => pure (Decimal.ofInt value)
  wrapIfNew invocation .number (.number value)

/-- Whether a number is whole. -/
def isWholeValue : Value → Bool
  | .number value => Decimal.isWhole value
  | _ => false

/-- Carry out a function of the constructor of numbers. -/
def runNumberFunction [Machine] (function : NumberFunction) (invocation : Invocation) :
    Eval Value :=
  return .boolean <|
    match function, invocation.first with
    | .isNaN, .number value => value.isNaN
    | .isFinite, .number value => !value.isNaN && !value.isInf
    | .isInteger, value => isWholeValue value
    | .isSafeInteger, .number value => Decimal.isWhole value && value.abs ≤ maxSafe
    | _, _ => false

/-- The base that an argument gives, ten if it is missing. -/
def toRadix [Machine] (value : Value) : Eval Nat := do
  if value.isUndefined then return 10
  else
    let radix ← toIntegral value
    if 2.0 ≤ radix && radix ≤ 36.0 then return radix.toUInt64.toNat else raiseRange .radix

/-- The number of digits that an argument gives, between two limits. -/
def toDigitCount [Machine] (value : Value) (least : Float) (fault : RangeFault) : Eval Nat := do
  let count ← toIntegral value
  if least ≤ count && count ≤ 100.0 then return count.toUInt64.toNat else raiseRange fault

/-- Whether a number is finite. -/
def isFiniteNumber (value : Float) : Bool := !value.isNaN && !value.isInf

/-- Carry out a method of numbers. -/
def runNumberMethod [Machine] (method : NumberMethod) (invocation : Invocation) :
    Eval Value := do
  let value ← thisNumber invocation.this
  let digits := invocation.first
  match method with
  | .toString =>
    let radix ← toRadix digits
    if radix = 10 then return .ofString (Decimal.text value)
    else return .ofString (Decimal.inBase radix value)
  | .toLocaleString => return .ofString (Decimal.text value)
  | .valueOf => return .number value
  | .toFixed =>
    let count ← toDigitCount digits 0.0 .fixedDigits
    if value.abs ≥ 1e21 || !isFiniteNumber value then return .ofString (Decimal.text value)
    else return .ofString (Decimal.fixed count value)
  | .toExponential =>
    let wanted ← toIntegral digits
    if !isFiniteNumber value then return .ofString (Decimal.text value)
    else if digits.isUndefined then return .ofString (Decimal.exponential none value)
    else
      let count ← toDigitCount (.number wanted) 0.0 .exponentDigits
      return .ofString (Decimal.exponential (some count) value)
  | .toPrecision =>
    if digits.isUndefined then return .ofString (Decimal.text value)
    else
      let wanted ← toIntegral digits
      if !isFiniteNumber value then return .ofString (Decimal.text value)
      else
        let count ← toDigitCount (.number wanted) 1.0 .precisionDigits
        return .ofString (Decimal.precise count value)

/-! ## Truth values -/

/-- Make a truth value. -/
def constructBoolean [Machine] (invocation : Invocation) : Eval Value :=
  wrapIfNew invocation .boolean (.boolean invocation.first.truth)

/-- Carry out a method of truth values. -/
def runBooleanMethod [Machine] (method : BooleanMethod) (invocation : Invocation) : Eval Value := do
  let value ← thisBoolean invocation.this
  match method with
  | .toString => return .ofString (if value then "true" else "false")
  | .valueOf => return .boolean value

/-! ## Big integers -/

/-- Make a big integer. -/
def constructBigint [Machine] (invocation : Invocation) : Eval Value := do
  if invocation.newTarget.isSome then raiseType .notConstructor
  else
    match ← toPrimitive .number invocation.first with
    | .number value =>
      if !isFiniteNumber value then raiseRange .notFinite
      else if !Decimal.isWhole value then raiseRange .notWhole
      else return .bigint ((Decimal.truncate? value).getD 0)
    | primitive => return .bigint (← bigintOfPrimitive primitive)

/-- Carry out a function of the constructor of big integers. -/
def runBigintFunction [Machine] (function : BigintFunction) (invocation : Invocation) :
    Eval Value := do
  let bits ← toIntegral invocation.first
  if bits < 0.0 || bits > maxSafe then raiseRange .arrayIndex
  else
    let value ← toBigint invocation.second
    let bits := bits.toUInt64.toNat
    match function with
    | .asUintN =>
      if value ≥ 0 && value.natAbs.log2 < bits then return .bigint value
      else if bits > maxBits then raiseRange .bigintSize
      else return .bigint (value % (Nat.pow 2 bits : Nat))
    | .asIntN =>
      if value.natAbs.log2 + 1 < bits then return .bigint value
      else return .bigint (Int.bmod value (Nat.pow 2 (min bits maxBits)))

/-- Carry out a method of big integers. -/
def runBigintMethod [Machine] (method : BigintMethod) (invocation : Invocation) :
    Eval Value := do
  let value ← thisBigint invocation.this
  match method with
  | .toString => return .ofString (Decimal.wholeInBase (← toRadix invocation.first) value)
  | .toLocaleString => return .ofString (toString value)
  | .valueOf => return .bigint value

end Scratchpad.Script
