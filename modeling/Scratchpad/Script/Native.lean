import Scratchpad.Script.Completion
import Scratchpad.Script.Standard

/-!
# Native functions

The functions and methods that the engine itself carries out, by the object that they belong to,
with their names and the number of arguments that each one announces.
-/
namespace Scratchpad.Script

/-- A function that belongs to no object. -/
inductive GlobalFunction where
  | parseInt
  | parseFloat
  | isNaN
  | isFinite
  | eval
  | encodeUri
  | encodeUriComponent
  | decodeUri
  | decodeUriComponent
  | escape
  | unescape
  | queueMicrotask
deriving DecidableEq, Repr

/-- The functions with their names and arities. -/
def GlobalFunction.table : List (GlobalFunction × String × Nat) :=
  [(.parseInt, "parseInt", 2), (.parseFloat, "parseFloat", 1), (.isNaN, "isNaN", 1),
    (.isFinite, "isFinite", 1), (.eval, "eval", 1), (.encodeUri, "encodeURI", 1),
    (.encodeUriComponent, "encodeURIComponent", 1), (.decodeUri, "decodeURI", 1),
    (.decodeUriComponent, "decodeURIComponent", 1), (.escape, "escape", 1),
    (.unescape, "unescape", 1), (.queueMicrotask, "queueMicrotask", 1)]

/-- A function of the constructor of objects. -/
inductive ObjectFunction where
  | create
  | getPrototypeOf
  | setPrototypeOf
  | defineProperty
  | defineProperties
  | getOwnPropertyNames
  | getOwnPropertySymbols
  | groupBy
  | keys
  | values
  | entries
  | isExtensible
  | preventExtensions
  | getOwnPropertyDescriptor
  | getOwnPropertyDescriptors
  | is
  | assign
  | seal
  | freeze
  | isSealed
  | isFrozen
  | fromEntries
  | hasOwn
deriving DecidableEq, Repr

/-- The functions with their names and arities. -/
def ObjectFunction.table : List (ObjectFunction × String × Nat) :=
  [(.create, "create", 2), (.getPrototypeOf, "getPrototypeOf", 1),
    (.setPrototypeOf, "setPrototypeOf", 2), (.defineProperty, "defineProperty", 3),
    (.defineProperties, "defineProperties", 2),
    (.getOwnPropertyNames, "getOwnPropertyNames", 1),
    (.getOwnPropertySymbols, "getOwnPropertySymbols", 1), (.groupBy, "groupBy", 2),
    (.keys, "keys", 1), (.values, "values", 1), (.entries, "entries", 1),
    (.isExtensible, "isExtensible", 1), (.preventExtensions, "preventExtensions", 1),
    (.getOwnPropertyDescriptor, "getOwnPropertyDescriptor", 2),
    (.getOwnPropertyDescriptors, "getOwnPropertyDescriptors", 1), (.is, "is", 2),
    (.assign, "assign", 2), (.seal, "seal", 1), (.freeze, "freeze", 1),
    (.isSealed, "isSealed", 1), (.isFrozen, "isFrozen", 1), (.fromEntries, "fromEntries", 1),
    (.hasOwn, "hasOwn", 2)]

/-- A method of every object. -/
inductive ObjectMethod where
  | toString
  | toLocaleString
  | valueOf
  | hasOwnProperty
  | isPrototypeOf
  | propertyIsEnumerable
  | defineGetter
  | defineSetter
  | lookupGetter
  | lookupSetter
deriving DecidableEq, Repr

/-- The methods with their names and arities. -/
def ObjectMethod.table : List (ObjectMethod × String × Nat) :=
  [(.toString, "toString", 0), (.toLocaleString, "toLocaleString", 0), (.valueOf, "valueOf", 0),
    (.hasOwnProperty, "hasOwnProperty", 1), (.isPrototypeOf, "isPrototypeOf", 1),
    (.propertyIsEnumerable, "propertyIsEnumerable", 1), (.defineGetter, "__defineGetter__", 2),
    (.defineSetter, "__defineSetter__", 2), (.lookupGetter, "__lookupGetter__", 1),
    (.lookupSetter, "__lookupSetter__", 1)]

/-- A method of functions. -/
inductive FunctionMethod where
  | call
  | apply
  | bind
  | toString
  | hasInstance
  /-- The prototype of functions is one itself, which does nothing. -/
  | empty
deriving DecidableEq, Repr

/-- The methods with their names and arities. -/
def FunctionMethod.table : List (FunctionMethod × String × Nat) :=
  [(.call, "call", 1), (.apply, "apply", 2), (.bind, "bind", 1), (.toString, "toString", 0)]

/-- A function of the constructor of arrays. -/
inductive ArrayFunction where
  | isArray
  | fromValues
  | of
deriving DecidableEq, Repr

/-- The functions with their names and arities. -/
def ArrayFunction.table : List (ArrayFunction × String × Nat) :=
  [(.isArray, "isArray", 1), (.fromValues, "from", 1), (.of, "of", 0)]

/-- A method of arrays. -/
inductive ArrayMethod where
  | at
  | with
  | concat
  | every
  | some
  | forEach
  | map
  | filter
  | reduce
  | reduceRight
  | fill
  | find
  | findIndex
  | findLast
  | findLastIndex
  | indexOf
  | lastIndexOf
  | includes
  | join
  | toString
  | toLocaleString
  | pop
  | push
  | shift
  | unshift
  | reverse
  | toReversed
  | sort
  | toSorted
  | slice
  | splice
  | toSpliced
  | copyWithin
  | flatMap
  | flat
  | values
  | keys
  | entries
deriving DecidableEq, Repr

/-- The methods with their names and arities. -/
def ArrayMethod.table : List (ArrayMethod × String × Nat) :=
  [(.at, "at", 1), (.with, "with", 2), (.concat, "concat", 1), (.every, "every", 1),
    (.some, "some", 1), (.forEach, "forEach", 1), (.map, "map", 1), (.filter, "filter", 1),
    (.reduce, "reduce", 1), (.reduceRight, "reduceRight", 1), (.fill, "fill", 1),
    (.find, "find", 1), (.findIndex, "findIndex", 1), (.findLast, "findLast", 1),
    (.findLastIndex, "findLastIndex", 1), (.indexOf, "indexOf", 1),
    (.lastIndexOf, "lastIndexOf", 1), (.includes, "includes", 1), (.join, "join", 1),
    (.toString, "toString", 0), (.toLocaleString, "toLocaleString", 0), (.pop, "pop", 0),
    (.push, "push", 1), (.shift, "shift", 0), (.unshift, "unshift", 1), (.reverse, "reverse", 0),
    (.toReversed, "toReversed", 0), (.sort, "sort", 1), (.toSorted, "toSorted", 1),
    (.slice, "slice", 2), (.splice, "splice", 2), (.toSpliced, "toSpliced", 2),
    (.copyWithin, "copyWithin", 2), (.flatMap, "flatMap", 1), (.flat, "flat", 0),
    (.values, "values", 0), (.keys, "keys", 0), (.entries, "entries", 0)]

/-- A function of the constructor of strings. -/
inductive TextFunction where
  | fromCharCode
  | fromCodePoint
  | raw
deriving DecidableEq, Repr

/-- The functions with their names and arities. -/
def TextFunction.table : List (TextFunction × String × Nat) :=
  [(.fromCharCode, "fromCharCode", 1), (.fromCodePoint, "fromCodePoint", 1), (.raw, "raw", 1)]

/-- A method of strings that puts them into a tag. -/
inductive TagMethod where
  | anchor
  | big
  | blink
  | bold
  | fixed
  | fontcolor
  | fontsize
  | italics
  | link
  | small
  | strike
  | sub
  | sup
deriving DecidableEq, Repr

/-- A method of strings. -/
inductive TextMethod where
  | at
  | charCodeAt
  | charAt
  | concat
  | codePointAt
  | isWellFormed
  | toWellFormed
  | indexOf
  | lastIndexOf
  | includes
  | endsWith
  | startsWith
  | match
  | matchAll
  | search
  | split
  | substring
  | substr
  | slice
  | repeat
  | replace
  | replaceAll
  | padEnd
  | padStart
  | trim
  | trimEnd
  | trimStart
  | toString
  | valueOf
  | toLowerCase
  | toUpperCase
  | toLocaleLowerCase
  | toLocaleUpperCase
  | localeCompare
  | normalize
  | iterator
  | tag (method : TagMethod)
deriving DecidableEq, Repr

/-- The methods with their names and arities. -/
def TextMethod.table : List (TextMethod × String × Nat) :=
  [(.at, "at", 1), (.charCodeAt, "charCodeAt", 1), (.charAt, "charAt", 1),
    (.concat, "concat", 1), (.codePointAt, "codePointAt", 1),
    (.isWellFormed, "isWellFormed", 0), (.toWellFormed, "toWellFormed", 0),
    (.indexOf, "indexOf", 1), (.lastIndexOf, "lastIndexOf", 1), (.includes, "includes", 1),
    (.endsWith, "endsWith", 1), (.startsWith, "startsWith", 1), (.match, "match", 1),
    (.matchAll, "matchAll", 1), (.search, "search", 1), (.split, "split", 2),
    (.substring, "substring", 2), (.substr, "substr", 2), (.slice, "slice", 2),
    (.repeat, "repeat", 1), (.replace, "replace", 2), (.replaceAll, "replaceAll", 2),
    (.padEnd, "padEnd", 1), (.padStart, "padStart", 1), (.trim, "trim", 0),
    (.trimEnd, "trimEnd", 0), (.trimStart, "trimStart", 0), (.toString, "toString", 0),
    (.valueOf, "valueOf", 0), (.toLowerCase, "toLowerCase", 0), (.toUpperCase, "toUpperCase", 0),
    (.toLocaleLowerCase, "toLocaleLowerCase", 0), (.toLocaleUpperCase, "toLocaleUpperCase", 0),
    (.localeCompare, "localeCompare", 1), (.normalize, "normalize", 0),
    (.tag .anchor, "anchor", 1), (.tag .big, "big", 0), (.tag .blink, "blink", 0),
    (.tag .bold, "bold", 0), (.tag .fixed, "fixed", 0), (.tag .fontcolor, "fontcolor", 1),
    (.tag .fontsize, "fontsize", 1), (.tag .italics, "italics", 0), (.tag .link, "link", 1),
    (.tag .small, "small", 0), (.tag .strike, "strike", 0), (.tag .sub, "sub", 0),
    (.tag .sup, "sup", 0)]

/-- A function of the constructor of numbers. -/
inductive NumberFunction where
  | isNaN
  | isFinite
  | isInteger
  | isSafeInteger
deriving DecidableEq, Repr

/-- The functions with their names and arities. -/
def NumberFunction.table : List (NumberFunction × String × Nat) :=
  [(.isNaN, "isNaN", 1), (.isFinite, "isFinite", 1), (.isInteger, "isInteger", 1),
    (.isSafeInteger, "isSafeInteger", 1)]

/-- A method of numbers. -/
inductive NumberMethod where
  | toExponential
  | toFixed
  | toPrecision
  | toString
  | toLocaleString
  | valueOf
deriving DecidableEq, Repr

/-- The methods with their names and arities. -/
def NumberMethod.table : List (NumberMethod × String × Nat) :=
  [(.toExponential, "toExponential", 1), (.toFixed, "toFixed", 1),
    (.toPrecision, "toPrecision", 1), (.toString, "toString", 1),
    (.toLocaleString, "toLocaleString", 0), (.valueOf, "valueOf", 0)]

/-- A method of truth values. -/
inductive BooleanMethod where
  | toString
  | valueOf
deriving DecidableEq, Repr

/-- The methods with their names and arities. -/
def BooleanMethod.table : List (BooleanMethod × String × Nat) :=
  [(.toString, "toString", 0), (.valueOf, "valueOf", 0)]

/-- A function of the constructor of symbols. -/
inductive SymbolFunction where
  | shared
  | keyFor
deriving DecidableEq, Repr

/-- The functions with their names and arities. -/
def SymbolFunction.table : List (SymbolFunction × String × Nat) :=
  [(.shared, "for", 1), (.keyFor, "keyFor", 1)]

/-- A method of symbols. -/
inductive SymbolMethod where
  | toString
  | valueOf
  | toPrimitive
deriving DecidableEq, Repr

/-- The methods with their names and arities. -/
def SymbolMethod.table : List (SymbolMethod × String × Nat) :=
  [(.toString, "toString", 0), (.valueOf, "valueOf", 0)]

/-- A function of the constructor of big integers. -/
inductive BigintFunction where
  | asUintN
  | asIntN
deriving DecidableEq, Repr

/-- The functions with their names and arities. -/
def BigintFunction.table : List (BigintFunction × String × Nat) :=
  [(.asUintN, "asUintN", 2), (.asIntN, "asIntN", 2)]

/-- A method of big integers. -/
inductive BigintMethod where
  | toString
  | valueOf
  | toLocaleString
deriving DecidableEq, Repr

/-- The methods with their names and arities. -/
def BigintMethod.table : List (BigintMethod × String × Nat) :=
  [(.toString, "toString", 0), (.valueOf, "valueOf", 0), (.toLocaleString, "toLocaleString", 0)]

/-- A function on numbers. -/
inductive MathFunction where
  | min
  | max
  | abs
  | floor
  | ceil
  | round
  | sqrt
  | acos
  | asin
  | atan
  | atan2
  | cos
  | exp
  | log
  | pow
  | sin
  | tan
  | trunc
  | sign
  | cosh
  | sinh
  | tanh
  | acosh
  | asinh
  | atanh
  | expm1
  | log1p
  | log2
  | log10
  | cbrt
  | hypot
  | random
  | fround
  | imul
  | clz32
deriving DecidableEq, Repr

/-- The functions with their names and arities. -/
def MathFunction.table : List (MathFunction × String × Nat) :=
  [(.min, "min", 2), (.max, "max", 2), (.abs, "abs", 1), (.floor, "floor", 1),
    (.ceil, "ceil", 1), (.round, "round", 1), (.sqrt, "sqrt", 1), (.acos, "acos", 1),
    (.asin, "asin", 1), (.atan, "atan", 1), (.atan2, "atan2", 2), (.cos, "cos", 1),
    (.exp, "exp", 1), (.log, "log", 1), (.pow, "pow", 2), (.sin, "sin", 1), (.tan, "tan", 1),
    (.trunc, "trunc", 1), (.sign, "sign", 1), (.cosh, "cosh", 1), (.sinh, "sinh", 1),
    (.tanh, "tanh", 1), (.acosh, "acosh", 1), (.asinh, "asinh", 1), (.atanh, "atanh", 1),
    (.expm1, "expm1", 1), (.log1p, "log1p", 1), (.log2, "log2", 1), (.log10, "log10", 1),
    (.cbrt, "cbrt", 1), (.hypot, "hypot", 2), (.random, "random", 0), (.fround, "fround", 1),
    (.imul, "imul", 2), (.clz32, "clz32", 1)]

/-- A function that reads or writes JSON. -/
inductive JsonFunction where
  | parse
  | stringify
deriving DecidableEq, Repr

/-- The functions with their names and arities. -/
def JsonFunction.table : List (JsonFunction × String × Nat) :=
  [(.parse, "parse", 2), (.stringify, "stringify", 3)]

/-- A method of maps. -/
inductive MapMethod where
  | set
  | get
  | has
  | delete
  | clear
  | forEach
  | values
  | keys
  | entries
deriving DecidableEq, Repr

/-- The methods with their names and arities. -/
def MapMethod.table : List (MapMethod × String × Nat) :=
  [(.set, "set", 2), (.get, "get", 1), (.has, "has", 1), (.delete, "delete", 1),
    (.clear, "clear", 0), (.forEach, "forEach", 1), (.values, "values", 0), (.keys, "keys", 0),
    (.entries, "entries", 0)]

/-- A method of sets. -/
inductive SetMethod where
  | add
  | has
  | delete
  | clear
  | forEach
  | isDisjointFrom
  | isSubsetOf
  | isSupersetOf
  | intersection
  | difference
  | symmetricDifference
  | union
  | values
  | entries
deriving DecidableEq, Repr

/-- The methods with their names and arities. -/
def SetMethod.table : List (SetMethod × String × Nat) :=
  [(.add, "add", 1), (.has, "has", 1), (.delete, "delete", 1), (.clear, "clear", 0),
    (.forEach, "forEach", 1), (.isDisjointFrom, "isDisjointFrom", 1),
    (.isSubsetOf, "isSubsetOf", 1), (.isSupersetOf, "isSupersetOf", 1),
    (.intersection, "intersection", 1), (.difference, "difference", 1),
    (.symmetricDifference, "symmetricDifference", 1), (.union, "union", 1),
    (.values, "values", 0), (.entries, "entries", 0)]

/-- A method of maps, sets or references that do not keep their keys alive. -/
inductive WeakMethod where
  | mapSet
  | mapGet
  | mapHas
  | mapDelete
  | setAdd
  | setHas
  | setDelete
  | deref
deriving DecidableEq, Repr

/-- The methods of weak maps with their names and arities. -/
def WeakMethod.ofMaps : List (WeakMethod × String × Nat) :=
  [(.mapSet, "set", 2), (.mapGet, "get", 1), (.mapHas, "has", 1), (.mapDelete, "delete", 1)]

/-- The methods of weak sets with their names and arities. -/
def WeakMethod.ofSets : List (WeakMethod × String × Nat) :=
  [(.setAdd, "add", 1), (.setHas, "has", 1), (.setDelete, "delete", 1)]

/-- A function of the constructor of promises. -/
inductive PromiseFunction where
  | resolve
  | reject
  | all
  | allSettled
  | any
  | race
  | withResolvers
deriving DecidableEq, Repr

/-- The functions with their names and arities. -/
def PromiseFunction.table : List (PromiseFunction × String × Nat) :=
  [(.resolve, "resolve", 1), (.reject, "reject", 1), (.all, "all", 1),
    (.allSettled, "allSettled", 1), (.any, "any", 1), (.race, "race", 1),
    (.withResolvers, "withResolvers", 0)]

/-- A method of promises. -/
inductive PromiseMethod where
  | then
  | catch
  | finally
  /-- A function that settles a promise or handles a settled one; nothing observes it. -/
  | settle
deriving DecidableEq, Repr

/-- The methods with their names and arities. -/
def PromiseMethod.table : List (PromiseMethod × String × Nat) :=
  [(.then, "then", 2), (.catch, "catch", 1), (.finally, "finally", 1)]

/-- A method of every iterator that applies a function or counts. -/
inductive IteratorMethod where
  | drop
  | filter
  | flatMap
  | map
  | take
  | every
  | find
  | forEach
  | some
  | reduce
  | toArray
deriving DecidableEq, Repr

/-- The methods with their names and arities. -/
def IteratorMethod.table : List (IteratorMethod × String × Nat) :=
  [(.drop, "drop", 1), (.filter, "filter", 1), (.flatMap, "flatMap", 1), (.map, "map", 1),
    (.take, "take", 1), (.every, "every", 1), (.find, "find", 1), (.forEach, "forEach", 1),
    (.some, "some", 1), (.reduce, "reduce", 1), (.toArray, "toArray", 0)]

/-- How an iterator is resumed. -/
inductive Resumption where
  | next
  | return
  | throw
deriving DecidableEq, Repr, Inhabited

/-- A function that does to an object what the language itself can do. -/
inductive ReflectFunction where
  | apply
  | construct
  | defineProperty
  | deleteProperty
  | get
  | getOwnPropertyDescriptor
  | getPrototypeOf
  | has
  | isExtensible
  | ownKeys
  | preventExtensions
  | set
  | setPrototypeOf
deriving DecidableEq, Repr

/-- The functions with their names and arities. -/
def ReflectFunction.table : List (ReflectFunction × String × Nat) :=
  [(.apply, "apply", 3), (.construct, "construct", 2), (.defineProperty, "defineProperty", 3),
    (.deleteProperty, "deleteProperty", 2), (.get, "get", 2),
    (.getOwnPropertyDescriptor, "getOwnPropertyDescriptor", 2),
    (.getPrototypeOf, "getPrototypeOf", 1), (.has, "has", 2), (.isExtensible, "isExtensible", 1),
    (.ownKeys, "ownKeys", 1), (.preventExtensions, "preventExtensions", 1), (.set, "set", 3),
    (.setPrototypeOf, "setPrototypeOf", 2)]

/-- A getter or setter of a standard object. -/
inductive Accessor where
  | getPrototype
  | setPrototype
  | species
  | mapSize
  | setSize
  | description
deriving DecidableEq, Repr

/-- A function that the engine itself carries out. -/
inductive Native where
  | console (level : Level)
  | constructor (of : StandardClass)
  /-- The constructor of functions that wait. -/
  | asyncFunction
  | global (function : GlobalFunction)
  | object (function : ObjectFunction)
  | objectMethod (method : ObjectMethod)
  | functionMethod (method : FunctionMethod)
  | array (function : ArrayFunction)
  | arrayMethod (method : ArrayMethod)
  | text (function : TextFunction)
  | textMethod (method : TextMethod)
  | number (function : NumberFunction)
  | numberMethod (method : NumberMethod)
  | booleanMethod (method : BooleanMethod)
  | symbol (function : SymbolFunction)
  | symbolMethod (method : SymbolMethod)
  | bigint (function : BigintFunction)
  | bigintMethod (method : BigintMethod)
  | math (function : MathFunction)
  | json (function : JsonFunction)
  | errorText
  | captureStack
  | mapMethod (method : MapMethod)
  | mapGroup
  | setMethod (method : SetMethod)
  | weakMethod (method : WeakMethod)
  | promise (function : PromiseFunction)
  | promiseMethod (method : PromiseMethod)
  | iteratorMethod (method : IteratorMethod)
  | iteratorFrom
  | iteratorSelf
  | resume (kind : IteratorKind) (how : Resumption)
  | reflect (function : ReflectFunction)
  | accessor (which : Accessor)
  /-- Refuses to be called. -/
  | thrower
deriving DecidableEq, Repr

end Scratchpad.Script
