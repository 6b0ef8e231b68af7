import Scratchpad.Decimal.Integral
import Scratchpad.Decimal.Places
import Scratchpad.Script.Access
import Scratchpad.Script.Numeral

/-!
# Conversions

Values as primitive values, numbers, strings, keys and objects. An object is converted by its own
methods, which are ordinary functions of the script.
-/
namespace Scratchpad.Script

open Scratchpad.Text (Units)

/-- What a primitive value is wanted for. -/
inductive Hint where
  | any
  | number
  | text
deriving DecidableEq, Repr

/-- The name of a hint. -/
def Hint.name : Hint → String
  | .any => "default"
  | .number => "number"
  | .text => "string"

/-- The first primitive value that one of some methods gives. -/
def firstPrimitive [Machine] (value : Value) : List String → Eval Value
  | [] => raiseType .noPrimitive
  | name :: rest => do
    let method ← getNamed value name
    if ← isCallable method then
      let found ← Machine.call method value #[]
      if found.isObject then firstPrimitive value rest else return found
    else firstPrimitive value rest

/-- A value as one that is no object. -/
def toPrimitive [Machine] (hint : Hint) (value : Value) : Eval Value := do
  match value with
  | .object _ =>
    match ← method? value WellKnown.toPrimitive.key with
    | some method =>
      let found ← Machine.call method value #[.ofString hint.name]
      if found.isObject then raiseType .noPrimitive else return found
    | none =>
      if hint = .text then firstPrimitive value ["toString", "valueOf"]
      else firstPrimitive value ["valueOf", "toString"]
  | _ => return value

/-! ## Numbers -/

/-- A primitive value as a number. -/
def numberOfPrimitive [Machine] (value : Value) : Eval Float := do
  match value with
  | .undefined => return Decimal.nan
  | .null => return 0.0
  | .boolean value => return if value then 1.0 else 0.0
  | .number value => return value
  | .bigint _ => raiseType .bigintToNumber
  | .text text => return Numeral.toNumber text
  | .symbol _ => raiseType .symbolToNumber
  | .object _ => return Decimal.nan

/-- A value as a number. -/
def toNumber [Machine] (value : Value) : Eval Float := do
  match value with
  | .number value => return value
  | _ => numberOfPrimitive (← toPrimitive .number value)

/-- A number or a big integer. -/
inductive Numeric where
  | number (value : Float)
  | bigint (value : Int)

/-- A numeric value as a value. -/
def Numeric.value : Numeric → Value
  | .number value => .number value
  | .bigint value => .bigint value

/-- A primitive value as a number or a big integer. -/
def numericOfPrimitive [Machine] (value : Value) : Eval Numeric := do
  match value with
  | .bigint value => return .bigint value
  | _ => return .number (← numberOfPrimitive value)

/-- A value as a number or a big integer. -/
def toNumeric [Machine] (value : Value) : Eval Numeric := do
  match value with
  | .number value => return .number value
  | _ => numericOfPrimitive (← toPrimitive .number value)

/-- A number without its fraction, zero for one that is no number. -/
def integral (value : Float) : Float :=
  if value.isNaN then 0.0 else if value < 0.0 then value.ceil + 0.0 else value.floor

/-- A value as a number without fraction. -/
def toIntegral [Machine] (value : Value) : Eval Float := return integral (← toNumber value)

/-- The greatest length of an object. -/
def maxSafe : Float := 9007199254740991.0

/-- A number as a length. -/
def lengthOf (value : Float) : Nat :=
  let value := integral value
  if value ≤ 0.0 then 0 else if value ≥ maxSafe then maxSafe.toUInt64.toNat else value.toUInt64.toNat

/-- A value as a length. -/
def toLength [Machine] (value : Value) : Eval Nat := return lengthOf (← toNumber value)

/-- A value as a signed word of 32 bits. -/
def toInt32 [Machine] (value : Value) : Eval Int32 := return Decimal.toInt32 (← toNumber value)

/-- A value as an unsigned word of 32 bits. -/
def toUInt32 [Machine] (value : Value) : Eval UInt32 := return Decimal.toUInt32 (← toNumber value)

/-- A position in a row: counted from the end if it is negative, and never outside. -/
def clampIndex (value : Float) (size : Nat) : Nat :=
  if value < 0.0 then
    let shifted := value + Float.ofNat size
    if shifted ≤ 0.0 then 0 else shifted.toUInt64.toNat
  else if value ≥ Float.ofNat size then size else value.toUInt64.toNat

/-- A value as a position in a row; a missing value is one that is given. -/
def toIndex [Machine] (value : Value) (size : Nat) (missing : Nat) : Eval Nat := do
  match value with
  | .undefined => return missing
  | _ => return clampIndex (← toIntegral value) size

/-- A primitive value as a big integer. -/
def bigintOfPrimitive [Machine] (value : Value) : Eval Int := do
  match value with
  | .bigint value => return value
  | .boolean value => return if value then 1 else 0
  | .text text =>
    match Numeral.toBigint? text with
    | some value => return value
    | none => raise (.syntactic "invalid bigint literal")
  | _ => raiseType .numberToBigint

/-- A value as a big integer. -/
def toBigint [Machine] (value : Value) : Eval Int := do
  bigintOfPrimitive (← toPrimitive .number value)

/-! ## Strings and keys -/

/-- A primitive value as a string. -/
def textOfPrimitive [Machine] (value : Value) : Eval Units := do
  match value with
  | .undefined => return "undefined"
  | .null => return "null"
  | .boolean value => return if value then "true" else "false"
  | .number value => return Units.ofString (Decimal.text value)
  | .bigint value => return Units.ofString (toString value)
  | .text text => return text
  | .symbol _ => raiseType .symbolToText
  | .object _ => return .empty

/-- A value as a string. -/
def toText [Machine] (value : Value) : Eval Units := do
  match value with
  | .text text => return text
  | _ => textOfPrimitive (← toPrimitive .text value)

/-- A primitive value as a key. -/
def keyOfPrimitive [Machine] (value : Value) : Eval Key := do
  match value with
  | .symbol ref => return .symbol ref
  | _ => return .text (← textOfPrimitive value)

/-- A value as a key. -/
def toKey [Machine] (value : Value) : Eval Key := do
  match value with
  | .text text => return .text text
  | .symbol ref => return .symbol ref
  | _ => keyOfPrimitive (← toPrimitive .text value)

/-! ## Objects -/

/-- A value in the form of an object. -/
def toObject [Machine] (value : Value) : Eval Ref := do
  match value with
  | .object ref => return ref
  | _ =>
    match prototypeOfPrimitive value with
    | some prototype => allocate { prototype := some prototype, nature := .wrapper value }
    | none => raiseType .notConvertible

/-- The length of an object. -/
def lengthOfObject [Machine] (ref : Ref) : Eval Nat := do
  match (← Eval.view (·.object ref)).nature with
  | .array _ length _ => return length
  | _ => toLength (← getOf ref .length)

/-- The key of an index. -/
def indexKey (index : Nat) : Key := .ofNat index

/-- The element of an object at an index. -/
def getIndex [Machine] (ref : Ref) (index : Nat) : Eval Value := do
  let element ← Eval.view fun memory =>
    match (memory.object ref).nature with
    | .array items _ _ => items[index]?
    | _ => none
  match element with
  | some value => return value
  | none => getOf ref (indexKey index)

end Scratchpad.Script
