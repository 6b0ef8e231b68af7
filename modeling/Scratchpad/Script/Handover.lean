import Scratchpad.Decimal.Places
import Scratchpad.Script.Conversion
import Scratchpad.Text.Quoted

/-!
# What leaves the engine

How a value of a script that is walked becomes a function or a text outside, or does not because it
is of another kind or no string of whole characters, and what can be told of a value and of an
error.
-/
namespace Scratchpad.Script

open Scratchpad.Text (Units)

/-! ## Kinds of values -/

/-- Whether a number is held as a small whole number. -/
def isSmallWhole (value : Float) : Bool :=
  Decimal.isWhole value && value.abs ≤ 2147483648.0 && value != 2147483648.0 &&
    value.toBits != 0x8000000000000000

/-- The name of the kind of an object. -/
def objectKindName (memory : Memory) (ref : Ref) : String :=
  if memory.isConstructor (.object ref) then "constructor"
  else
    match (memory.object ref).nature with
    | .array .. => "array"
    | .closure _ | .native _ | .bound .. => "function"
    | .promise => "promise"
    | .error => "exception"
    | _ => "object"

/-- The name of the kind of a value. -/
def kindName (memory : Memory) : Value → String
  | .undefined => "undefined"
  | .null => "null"
  | .boolean _ => "bool"
  | .number value => if isSmallWhole value then "int" else "float"
  | .bigint _ => "bigint"
  | .text _ => "string"
  | .symbol _ => "symbol"
  | .object ref => objectKindName memory ref

/-- A value as a listing for programmers shows it. -/
def listedValue (memory : Memory) : Value → String
  | .undefined => "Undefined\"undefined\""
  | .null => "Null\"null\""
  | .boolean value => "Bool(" ++ toString value ++ ")"
  | .number value =>
    if isSmallWhole value then "Int(" ++ Decimal.text value ++ ")"
    else "Float(" ++ Decimal.listed value ++ ")"
  | .bigint value => "BigInt(" ++ toString value ++ ")"
  | .text value => "String(Ok(" ++ Text.quoted value.lossy ++ "))"
  | .symbol _ => "Symbol"
  | .object ref => objectKindName memory ref

/-! ## Texts -/

/-- A value as a function, if it is one. -/
def asFunction [Machine] (value : Value) : Eval (Except TypeFault Value) := do
  if ← isCallable value then return .ok value
  else return .error (.mismatch (← Eval.view (kindName · value)) "function")

/-- A value as a text, if it is a string of whole characters. -/
def asText [Machine] (value : Value) : Eval (Except TypeFault String) := do
  match value with
  | .text text =>
    return match text.decode with
    | .ok chars => .ok (String.ofList chars)
    | .error index => .error (.loneSurrogate index)
  | _ => return .error (.mismatch (← Eval.view (kindName · value)) "string")

/-- The text that a value converts to, if it is a string of whole characters. -/
def coercedText [Machine] (value : Value) : Eval (Except TypeFault String) := do
  asText (.text (← toText value))

/-! ## Errors -/

/-- Whether a value is a real error, and not only an object that inherits from one. -/
def isRealError (memory : Memory) : Value → Bool
  | .object ref => ((memory.object ref).nature matches .error)
  | _ => false

/-- The message of an error, if there is one that can be read. -/
def errorMessage [Machine] (error : Value) : Eval (Option String) := do
  match ← get error .message with
  | .undefined | .null => return none
  | message =>
    match ← coercedText message with
    | .ok text => return some text
    | .error _ => return none

end Scratchpad.Script
