import Scratchpad.Script.Assignment

/-!
# Operators

What the operators yield for values. Numbers and big integers do not mix, except where they are only
compared.
-/
namespace Scratchpad.Script

open Scratchpad.Text (Units)

/-! ## Arithmetic -/

/-- A power, which is no number for an exponent that is none, and for one that is infinite with a
base of plus or minus one. -/
def power (base exponent : Float) : Float :=
  if exponent.isNaN || (base.abs == 1.0 && exponent.isInf) then Decimal.nan
  else Float.pow base exponent

/-- A bitwise operation on whole numbers of any size, in the shortest words that hold both. -/
def bitwise (op : (width : Nat) → BitVec width → BitVec width → BitVec width) (first second : Int) :
    Int :=
  let width := max first.natAbs.log2 second.natAbs.log2 + 2
  (op width (.ofInt width first) (.ofInt width second)).toInt

/-- The number of bits that a big integer may have. -/
def maxBits : Nat := 1048576

/-- A shift of a big integer to the left, or to the right by a negative number. -/
def shiftBigint [Machine] (value count : Int) : Eval Int := do
  if count < 0 then
    if (-count).toNat > maxBits then return if value < 0 then -1 else 0
    else return value >>> (-count).toNat
  else if value ≠ 0 && count.toNat > maxBits then raiseRange .bigintSize
  else return value * Int.pow 2 count.toNat

/-- A power of a big integer. -/
def powerBigint [Machine] (base exponent : Int) : Eval Int := do
  if exponent < 0 then raiseRange .negativeExponent
  else if base.natAbs > 1 && base.natAbs.log2 * exponent.toNat > maxBits then raiseRange .bigintSize
  else if base.natAbs ≤ 1 then
    return if exponent = 0 then 1 else if base < 0 && exponent % 2 = 0 then 1 else base
  else return Int.pow base exponent.toNat

/-- An arithmetic operation on numbers. -/
def onNumbers (op : BinaryOp) (first second : Float) : Float :=
  match op with
  | .add => first + second
  | .sub => first - second
  | .mul => first * second
  | .div => first / second
  | .rem => Decimal.remainder first second
  | .pow => power first second
  | .shiftLeft =>
    Decimal.ofInt32 (Decimal.toInt32 first <<< (Decimal.toUInt32 second % 32).toInt32)
  | .shiftRight =>
    Decimal.ofInt32 (Decimal.toInt32 first >>> (Decimal.toUInt32 second % 32).toInt32)
  | .shiftRightZero =>
    Decimal.ofUInt32 (Decimal.toUInt32 first >>> (Decimal.toUInt32 second % 32))
  | .bitAnd => Decimal.ofInt32 (Decimal.toInt32 first &&& Decimal.toInt32 second)
  | .bitOr => Decimal.ofInt32 (Decimal.toInt32 first ||| Decimal.toInt32 second)
  | .bitXor => Decimal.ofInt32 (Decimal.toInt32 first ^^^ Decimal.toInt32 second)
  | _ => Decimal.nan

/-- An arithmetic operation on big integers. -/
def onBigints [Machine] (op : BinaryOp) (first second : Int) : Eval Int := do
  match op with
  | .add => return first + second
  | .sub => return first - second
  | .mul => return first * second
  | .div => if second = 0 then raiseRange .divisionByZero else return first.tdiv second
  | .rem => if second = 0 then raiseRange .divisionByZero else return first.tmod second
  | .pow => powerBigint first second
  | .shiftLeft => shiftBigint first second
  | .shiftRight => shiftBigint first (-second)
  | .shiftRightZero => raiseType .bigintShift
  | .bitAnd => return bitwise (fun _ => (· &&& ·)) first second
  | .bitOr => return bitwise (fun _ => (· ||| ·)) first second
  | .bitXor => return bitwise (fun _ => (· ^^^ ·)) first second
  | _ => return 0

/-- An arithmetic operation on numeric values of one kind. -/
def arithmetic [Machine] (op : BinaryOp) : Numeric → Numeric → Eval Value
  | .number first, .number second => return .number (onNumbers op first second)
  | .bigint first, .bigint second => do
    let found ← onBigints op first second
    charge (found.natAbs.log2 / 8)
    return .bigint found
  | _, _ => raiseType .bigintToNumber

/-- The greatest number of units of a string. -/
def maxUnits : Nat := 1073741823

/-- Two strings one after the other. -/
def concatenate [Machine] (first second : Units) : Eval Value := do
  if first.size + second.size > maxUnits then raiseRange .textLength
  else
    charge (first.size + second.size)
    return .text (first ++ second)

/-- The sum of two values: strings are put one after the other. -/
def add [Machine] (first second : Value) : Eval Value := do
  match first, second with
  | .number first, .number second => return .number (first + second)
  | .text first, .text second => concatenate first second
  | _, _ =>
    let first ← toPrimitive .any first
    let second ← toPrimitive .any second
    match first, second with
    | .text first, _ => concatenate first (← textOfPrimitive second)
    | _, .text second => concatenate (← textOfPrimitive first) second
    | _, _ =>
      let first ← numericOfPrimitive first
      arithmetic .add first (← numericOfPrimitive second)

/-! ## Comparisons -/

/-- Whether a big integer is less than, equal to or greater than a number. -/
def compareBigint (first : Int) (second : Float) : Option Ordering :=
  if second.isNaN then none
  else if second.isInf then some (if second > 0.0 then .lt else .gt)
  else
    let whole := (Decimal.truncate? second.floor).getD 0
    if first < whole then some .lt
    else if first > whole then some .gt
    else some (if second.floor == second then .eq else .lt)

/-- The order of numbers. -/
def compareNumbers (first second : Float) : Option Ordering :=
  if first < second then some .lt
  else if first > second then some .gt
  else if first == second then some .eq
  else none

/-- The order of numeric values. -/
def Numeric.compare : Numeric → Numeric → Option Ordering
  | .number first, .number second => compareNumbers first second
  | .bigint first, .bigint second =>
    some (if first < second then .lt else if first > second then .gt else .eq)
  | .bigint first, .number second => compareBigint first second
  | .number first, .bigint second => (compareBigint second first).map Ordering.swap

/-- The order of strings. -/
def compareTexts (first second : Units) : Ordering :=
  if first.less second then .lt else if second.less first then .gt else .eq

/-- The order of primitive values; none if they cannot be compared. -/
def comparePrimitives [Machine] (first second : Value) : Eval (Option Ordering) := do
  match first, second with
  | .text first, .text second => return some (compareTexts first second)
  | .bigint first, .text second =>
    return (Numeral.toBigint? second).bind fun second =>
      Numeric.compare (.bigint first) (.bigint second)
  | .text first, .bigint second =>
    return (Numeral.toBigint? first).bind fun first =>
      Numeric.compare (.bigint first) (.bigint second)
  | _, _ =>
    let first ← numericOfPrimitive first
    return first.compare (← numericOfPrimitive second)

/-- The order of two values; none if they cannot be compared. -/
def compare [Machine] (first second : Value) : Eval (Option Ordering) := do
  match first, second with
  | .number first, .number second => return compareNumbers first second
  | _, _ =>
    let first ← toPrimitive .number first
    comparePrimitives first (← toPrimitive .number second)

/-- Whether a big integer is what another value spells or is. -/
def bigintEquals (first : Int) : Value → Bool
  | .bigint second => first = second
  | .number second => compareBigint first second = some .eq
  | .text text => Numeral.toBigint? text = some first
  | _ => false

/-- Whether two values that are no objects are equal after conversion. -/
def primitivesEqual (first second : Value) : Bool :=
  let number (value : Value) : Value := match value with
    | .boolean value => .number (if value then 1.0 else 0.0)
    | value => value
  match number first, number second with
  | .undefined, .null | .null, .undefined => true
  | .bigint first, second => bigintEquals first second
  | first, .bigint second => bigintEquals second first
  | .number first, .text text => first == Numeral.toNumber text
  | .text text, .number second => Numeral.toNumber text == second
  | first, second => first.strictEq second

/-- Whether two values are equal after conversion. -/
def looseEquals [Machine] (first second : Value) : Eval Bool := do
  match first, second with
  | .object first, .object second => return first == second
  | .object _, .undefined | .object _, .null | .undefined, .object _ | .null, .object _ =>
    return false
  | .object _, _ => return primitivesEqual (← toPrimitive .any first) second
  | _, .object _ => return primitivesEqual first (← toPrimitive .any second)
  | _, _ => return primitivesEqual first second

/-! ## Types and classes -/

/-- The name of the type of a value. -/
def typeName (memory : Memory) : Value → String
  | .undefined => "undefined"
  | .null => "object"
  | .boolean _ => "boolean"
  | .number _ => "number"
  | .bigint _ => "bigint"
  | .text _ => "string"
  | .symbol _ => "symbol"
  | .object ref => if (memory.object ref).isCallable then "function" else "object"

/-- Whether a value descends from the prototype that a function gives, the function that it is bound
to being at most `fuel` objects away. -/
def descends [Machine] (value : Value) : Nat → Ref → Eval Bool
  | 0, _ => return false
  | fuel + 1, function => do
    match (← Eval.view (·.object function)).nature with
    | .bound target _ _ => descends value fuel target
    | _ =>
      match value with
      | .object ref =>
        match ← getOf function .prototype with
        | .object prototype =>
          Eval.view fun memory =>
            match (memory.object ref).prototype with
            | some above => memory.descendsFrom prototype memory.objects.size above
            | none => false
        | _ => raiseType .badPrototypeOperand
      | _ => return false

/-- Whether a value descends from the prototype of a function. -/
def descendsFromPrototype [Machine] (value : Value) (function : Value) : Eval Bool := do
  match function with
  | .object ref =>
    if ← isCallable function then descends value (← Eval.view (·.objects.size)) ref
    else return false
  | _ => return false

/-- Whether a value is an instance of another one. -/
def isInstance [Machine] (value target : Value) : Eval Bool := do
  match target with
  | .object _ =>
    let method ← get target WellKnown.hasInstance.key
    if !method.isMissing then return (← Machine.call method target #[value]).truth
    else if ← isCallable target then descendsFromPrototype value target
    else raiseType .badInstanceOperand
  | _ => raiseType .badInstanceOperand

/-- Whether a value has a property. -/
def hasProperty [Machine] (key target : Value) : Eval Bool := do
  match target with
  | .object ref => has ref (← toKey key)
  | _ => raiseType .badHasOperand

/-- What an operator yields for two values. -/
def binary [Machine] (op : BinaryOp) (first second : Value) : Eval Value := do
  match op with
  | .add => add first second
  | .less => return .boolean ((← compare first second) = some .lt)
  | .greater => return .boolean ((← compare first second) = some .gt)
  | .lessEq => return .boolean ((← compare first second).any (· ≠ .gt))
  | .greaterEq => return .boolean ((← compare first second).any (· ≠ .lt))
  | .looseEq => return .boolean (← looseEquals first second)
  | .looseNe => return .boolean !(← looseEquals first second)
  | .strictEq => return .boolean (first.strictEq second)
  | .strictNe => return .boolean !(first.strictEq second)
  | .isInstance => return .boolean (← isInstance first second)
  | .hasProperty => return .boolean (← hasProperty first second)
  | _ =>
    match first, second with
    | .number first, .number second => return .number (onNumbers op first second)
    | _, _ =>
      let first ← toNumeric first
      arithmetic op first (← toNumeric second)

/-- What an operator yields for one value. -/
def unary [Machine] (op : UnaryOp) (value : Value) : Eval Value := do
  match op with
  | .not => return .boolean !value.truth
  | .discard => return .undefined
  | .typeName => return .ofString (← Eval.view (typeName · value))
  | .plus =>
    match ← toPrimitive .number value with
    | .bigint _ => raiseType .bigintPlus
    | primitive => return .number (← numberOfPrimitive primitive)
  | .minus =>
    match ← toNumeric value with
    | .number value => return .number (-value)
    | .bigint value => return .bigint (-value)
  | .complement =>
    match ← toNumeric value with
    | .number value => return .number (Decimal.ofInt32 (~~~Decimal.toInt32 value))
    | .bigint value => return .bigint (-value - 1)

/-- A numeric value greater or less by one. -/
def Numeric.step (increment : Bool) : Numeric → Numeric
  | .number value => .number (if increment then value + 1.0 else value - 1.0)
  | .bigint value => .bigint (if increment then value + 1 else value - 1)

end Scratchpad.Script
