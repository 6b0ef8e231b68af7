import Scratchpad.Text.Units

/-!
# Faults of scripts

The causes for which the evaluation of a script throws on its own account, by the kind of error that
each one is, and the wording of each.
-/
namespace Scratchpad.Script

open Scratchpad.Text (Units)

/-- The kinds of errors. -/
inductive ErrorKind where
  | error
  | eval
  | range
  | reference
  | syntactic
  | type
  | uri
  | internal
  | aggregate
deriving DecidableEq, Repr, Inhabited

/-- The name of a kind of errors. -/
def ErrorKind.name : ErrorKind → String
  | .error => "Error"
  | .eval => "EvalError"
  | .range => "RangeError"
  | .reference => "ReferenceError"
  | .syntactic => "SyntaxError"
  | .type => "TypeError"
  | .uri => "URIError"
  | .internal => "InternalError"
  | .aggregate => "AggregateError"

/-- Every kind of errors, the general one first. -/
def ErrorKind.all : List ErrorKind :=
  [.error, .eval, .range, .reference, .syntactic, .type, .uri, .internal, .aggregate]

/-- A value is not what an operation needs. -/
inductive TypeFault where
  /-- A property of `undefined` or `null` is read. -/
  | readOfMissing (key base : String)
  /-- A property of `undefined` or `null` is assigned. -/
  | writeOfMissing (key base : String)
  | notFunction
  | notConstructor
  | classWithoutNew
  | constructorWithoutNew
  | nativeWithoutNew
  | abstractClass
  | forbiddenAccess
  | readOnly (name : String)
  | notExtensible
  | noSetter
  | notDeletable
  | notConfigurable
  | notObject
  | notConvertible
  | notSymbol
  | notDescriptor
  | badGetter
  | badSetter
  | mixedDescriptor
  | badInstanceOperand
  | badPrototypeOperand
  | badHasOperand
  | notIterable
  | badIterator
  | noThrowMethod
  | symbolToText
  | symbolToNumber
  | symbolToBigint
  | bigintToNumber
  | numberToBigint
  | bigintPlus
  | bigintShift
  | noPrimitive
  | cyclicPrototype
  | notPrototype
  | badParent
  | badParentPrototype
  | badConstructorResult
  | hiddenExists (name : String)
  | hiddenMissing (name : String)
  /-- A method is called on something else than an object of its class. -/
  | wrongReceiver (name : String)
  | badReceiver (method : String)
  | circularReference
  | bigintInJson
  | emptyArray
  | tooLong
  | loneSurrogate (index : Nat)
  /-- A value is not of the kind that is needed outside. -/
  | mismatch (found wanted : String)
  /-- A generator is called. -/
  | generatorCall
  | badSetLike (what : String)
  | sharedResolver
  | selfResolution
  | notCoercible
  | notCell
  | badKey (what : String)
  | regexArgument
deriving DecidableEq, Repr

/-- A value is outside the range that an operation allows. -/
inductive RangeFault where
  | stackOverflow
  | arrayLength
  | arrayIndex
  | textLength
  | repeatCount
  | codePoint
  | normalForm
  | radix
  | fixedDigits
  | exponentDigits
  | precisionDigits
  | divisionByZero
  | negativeExponent
  | notWhole
  | notFinite
  | bigintSize
  | badIndex
  | badSize (what : String)
deriving DecidableEq, Repr

/-- A name cannot be used. -/
inductive ReferenceFault where
  | notDefined (name : String)
  | notInitialized (name : String)
  | initializedTwice
  | invalidTarget
  | superDeletion
deriving DecidableEq, Repr

/-- An escape in an address is malformed. -/
inductive UriFault where
  | expectingEscape
  | expectingDigit
  | malformed
  | character
  | expectingPair
deriving DecidableEq, Repr

/-- A limit of the engine was met. -/
inductive EngineFault where
  | outOfMemory
  | interrupted
deriving DecidableEq, Repr

/-- The cause for which an evaluation throws. -/
inductive Fault where
  | type (fault : TypeFault)
  | range (fault : RangeFault)
  | reference (fault : ReferenceFault)
  | uri (fault : UriFault)
  | engine (fault : EngineFault)
  /-- A text cannot be read; the message says why. -/
  | syntactic (message : String)
deriving DecidableEq, Repr

/-- The wording of a fault. -/
def TypeFault.message : TypeFault → String
  | .readOfMissing key base => "cannot read property '" ++ key ++ "' of " ++ base
  | .writeOfMissing key base => "cannot set property '" ++ key ++ "' of " ++ base
  | .notFunction => "not a function"
  | .notConstructor => "not a constructor"
  | .classWithoutNew => "class constructors must be invoked with 'new'"
  | .constructorWithoutNew => "constructor requires 'new'"
  | .nativeWithoutNew => "must be called with new"
  | .abstractClass => "abstract class not constructable"
  | .forbiddenAccess => "invalid property access"
  | .readOnly name => "'" ++ name ++ "' is read-only"
  | .notExtensible => "object is not extensible"
  | .noSetter => "no setter for property"
  | .notDeletable => "could not delete property"
  | .notConfigurable => "property is not configurable"
  | .notObject => "not an object"
  | .notConvertible => "cannot convert to object"
  | .notSymbol => "not a symbol"
  | .notDescriptor => "property descriptor must be an object"
  | .badGetter => "invalid getter"
  | .badSetter => "invalid setter"
  | .mixedDescriptor => "cannot have setter/getter and value or writable"
  | .badInstanceOperand => "invalid 'instanceof' right operand"
  | .badPrototypeOperand => "operand 'prototype' property is not an object"
  | .badHasOperand => "invalid 'in' operand"
  | .notIterable => "value is not iterable"
  | .badIterator => "iterator must return an object"
  | .noThrowMethod => "iterator does not have a throw method"
  | .symbolToText => "cannot convert symbol to string"
  | .symbolToNumber => "cannot convert symbol to number"
  | .symbolToBigint => "cannot convert to BigInt"
  | .bigintToNumber => "cannot convert BigInt to number"
  | .numberToBigint => "cannot convert to BigInt"
  | .bigintPlus => "bigint argument with unary +"
  | .bigintShift => "bigint operands are forbidden for >>>"
  | .noPrimitive => "toPrimitive"
  | .cyclicPrototype => "circular prototype chain"
  | .notPrototype => "not a prototype"
  | .badParent => "parent class must be constructor"
  | .badParentPrototype => "parent prototype must be an object or null"
  | .badConstructorResult => "derived class constructor must return an object or undefined"
  | .hiddenExists name => "private class field '" ++ name ++ "' already exists"
  | .hiddenMissing name => "private class field '" ++ name ++ "' does not exist"
  | .wrongReceiver name => name ++ " object expected"
  | .badReceiver method => "not a " ++ method
  | .circularReference => "circular reference"
  | .bigintInJson => "BigInt are forbidden in JSON.stringify"
  | .emptyArray => "empty array"
  | .tooLong => "Array too long"
  | .loneSurrogate index =>
    "Conversion from string failed: invalid utf-8 sequence of 1 bytes from index " ++ toString index
  | .mismatch found wanted =>
    "Error converting from js '" ++ found ++ "' into type '" ++ wanted ++ "'"
  | .generatorCall => "generators are not supported"
  | .badSetLike what => what
  | .sharedResolver => "resolving function already set"
  | .selfResolution => "promise self resolution"
  | .notCoercible => "null or undefined are forbidden"
  | .notCell => "invalid value used as WeakMap key"
  | .badKey what => "invalid value used " ++ what
  | .regexArgument => "regexp not supported"

/-- The wording of a fault. -/
def RangeFault.message : RangeFault → String
  | .stackOverflow => "Maximum call stack size exceeded"
  | .arrayLength => "invalid array length"
  | .arrayIndex => "invalid array index"
  | .textLength => "invalid string length"
  | .repeatCount => "invalid repeat count"
  | .codePoint => "invalid code point"
  | .normalForm => "bad normalization form"
  | .radix => "toString() radix argument must be between 2 and 36"
  | .fixedDigits => "toFixed() digits argument must be between 0 and 100"
  | .exponentDigits => "toExponential() argument must be between 0 and 100"
  | .precisionDigits => "toPrecision() argument must be between 1 and 100"
  | .divisionByZero => "BigInt division by zero"
  | .negativeExponent => "BigInt negative exponent"
  | .notWhole => "cannot convert to BigInt: not an integer"
  | .notFinite => "cannot convert NaN or Infinity to BigInt"
  | .bigintSize => "BigInt is too large to allocate"
  | .badIndex => "invalid index"
  | .badSize what => what

/-- The wording of a fault. -/
def ReferenceFault.message : ReferenceFault → String
  | .notDefined name => name ++ " is not defined"
  | .notInitialized name => name ++ " is not initialized"
  | .initializedTwice => "'this' can be initialized only once"
  | .invalidTarget => "invalid assignment left-hand side"
  | .superDeletion => "unsupported reference to 'super'"

/-- The wording of a fault. -/
def UriFault.message : UriFault → String
  | .expectingEscape => "expecting %"
  | .expectingDigit => "expecting hex digit"
  | .malformed => "malformed UTF-8"
  | .character => "invalid character"
  | .expectingPair => "expecting surrogate pair"

/-- The wording of a fault. -/
def EngineFault.message : EngineFault → String
  | .outOfMemory => "out of memory"
  | .interrupted => "interrupted"

namespace Fault

/-- The kind of error that a fault throws. -/
def kind : Fault → ErrorKind
  | .type _ => .type
  | .range _ => .range
  | .reference _ => .reference
  | .uri _ => .uri
  | .engine _ => .internal
  | .syntactic _ => .syntactic

/-- The wording of a fault, as long as it may become. -/
def fullMessage : Fault → String
  | .type fault => fault.message
  | .range fault => fault.message
  | .reference fault => fault.message
  | .uri fault => fault.message
  | .engine fault => fault.message
  | .syntactic message => message

/-- Characters that fit into a number of bytes. -/
def fitting (limit : Nat) : List Char → List Char
  | [] => []
  | c :: rest => if c.utf8Size ≤ limit then c :: fitting (limit - c.utf8Size) rest else []

/-- The number of bytes that a message may have. -/
def maxMessage : Nat := 255

/-- The wording of a fault, as much of it as fits. -/
def message (fault : Fault) : String :=
  let message := fault.fullMessage
  if message.utf8ByteSize ≤ maxMessage then message
  else String.ofList (fitting maxMessage message.toList)

end Fault

end Scratchpad.Script
