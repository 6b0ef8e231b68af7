import Scratchpad.Text.Units

/-!
# Values of scripts

What an expression can yield and what can name a property. Objects, symbols and environments are
identities: places in the memory of a run.
-/
namespace Scratchpad.Script

open Scratchpad.Text (Units)

/-- The identity of an object. -/
structure Ref where
  place : Nat
deriving DecidableEq, Repr, Inhabited

/-- The identity of a symbol. -/
structure SymbolRef where
  place : Nat
deriving DecidableEq, Repr, Inhabited

/-- The identity of an environment. -/
structure EnvironmentRef where
  place : Nat
deriving DecidableEq, Repr, Inhabited

/-- A value. -/
inductive Value where
  | undefined
  | null
  | boolean (value : Bool)
  | number (value : Float)
  | bigint (value : Int)
  | text (value : Units)
  | symbol (ref : SymbolRef)
  | object (ref : Ref)
deriving Inhabited

/-- The name of a property. -/
inductive Key where
  | text (name : Units)
  | symbol (ref : SymbolRef)
  /-- A private name; each evaluation of a class makes its own. -/
  | hidden (place : Nat)
deriving DecidableEq, Inhabited

namespace Value

/-- The value of a string. -/
def ofString (text : String) : Value := .text (Units.ofString text)

/-- The value of a natural number. -/
def ofNat (value : Nat) : Value := .number (Float.ofNat value)

/-- The value of an object that may be missing, `null` if it is. -/
def ofRef? : Option Ref → Value
  | some ref => .object ref
  | none => .null

/-- Whether a value is `undefined` or `null`. -/
def isMissing : Value → Bool
  | .undefined | .null => true
  | _ => false

/-- Whether a value is `undefined`. -/
def isUndefined : Value → Bool
  | .undefined => true
  | _ => false

/-- Whether a value is an object. -/
def isObject : Value → Bool
  | .object _ => true
  | _ => false

/-- The object that a value is. -/
def ref? : Value → Option Ref
  | .object ref => some ref
  | _ => none

/-- Whether a value counts as true. -/
def truth : Value → Bool
  | .undefined | .null => false
  | .boolean value => value
  | .number value => !(value == 0.0 || value.isNaN)
  | .bigint value => value ≠ 0
  | .text value => !value.isEmpty
  | .symbol _ | .object _ => true

/-- Whether two values are the same and neither is a number that is no number. -/
def strictEq : Value → Value → Bool
  | .undefined, .undefined | .null, .null => true
  | .boolean first, .boolean second => first == second
  | .number first, .number second => first == second
  | .bigint first, .bigint second => first == second
  | .text first, .text second => first == second
  | .symbol first, .symbol second => first == second
  | .object first, .object second => first == second
  | _, _ => false

/-- Whether two values are the same, where no number equals itself and the zeros are equal. -/
def sameZero (first second : Value) : Bool :=
  match first, second with
  | .number a, .number b => a == b || (a.isNaN && b.isNaN)
  | _, _ => first.strictEq second

/-- Whether two values cannot be told apart. -/
def same (first second : Value) : Bool :=
  match first, second with
  | .number a, .number b => (a.isNaN && b.isNaN) || a.toBits == b.toBits
  | _, _ => first.strictEq second

end Value

namespace Key

/-- The key of a string. -/
def ofString (text : String) : Key := .text (Units.ofString text)

/-- The key of an index. -/
def ofNat (index : Nat) : Key := .text (Units.ofNat index)

/-- The array index that a key is. -/
def index? : Key → Option Nat
  | .text name => name.index?
  | _ => none

/-- The value that a key is. -/
def value : Key → Value
  | .text name => .text name
  | .symbol ref => .symbol ref
  | .hidden _ => .undefined

/-- Whether a key is a string. -/
def isText : Key → Bool
  | .text _ => true
  | _ => false

end Key

end Scratchpad.Script
