import Scratchpad.Script.Fault
import Scratchpad.Script.Value

/-!
# Standard objects

The classes and symbols that every script finds. The objects that the engine itself refers to have
fixed places: first each class's prototype and constructor, then the others.
-/
namespace Scratchpad.Script

/-- The standard classes. -/
inductive StandardClass where
  | object
  | function
  | array
  | text
  | number
  | boolean
  | symbol
  | bigint
  | map
  | set
  | weakMap
  | weakSet
  | weakRef
  | promise
  | iterator
  | error (kind : ErrorKind)
deriving DecidableEq, Repr, Inhabited

namespace StandardClass

/-- The name of a class. -/
def name : StandardClass → String
  | .object => "Object"
  | .function => "Function"
  | .array => "Array"
  | .text => "String"
  | .number => "Number"
  | .boolean => "Boolean"
  | .symbol => "Symbol"
  | .bigint => "BigInt"
  | .map => "Map"
  | .set => "Set"
  | .weakMap => "WeakMap"
  | .weakSet => "WeakSet"
  | .weakRef => "WeakRef"
  | .promise => "Promise"
  | .iterator => "Iterator"
  | .error kind => kind.name

/-- The number of arguments that a constructor announces. -/
def arity : StandardClass → Nat
  | .symbol | .map | .set | .weakMap | .weakSet | .iterator => 0
  | .error .aggregate => 2
  | _ => 1

/-- The position of a class among all classes. -/
def position : StandardClass → Nat
  | .object => 0
  | .function => 1
  | .array => 2
  | .text => 3
  | .number => 4
  | .boolean => 5
  | .symbol => 6
  | .bigint => 7
  | .map => 8
  | .set => 9
  | .weakMap => 10
  | .weakSet => 11
  | .weakRef => 12
  | .promise => 13
  | .iterator => 14
  | .error kind => 15 + kind.ctorIdx

/-- Every class, in the order of the positions. -/
def all : List StandardClass :=
  [.object, .function, .array, .text, .number, .boolean, .symbol, .bigint, .map, .set, .weakMap,
    .weakSet, .weakRef, .promise, .iterator] ++ ErrorKind.all.map .error

end StandardClass

/-- The kinds of built-in iterators. -/
inductive IteratorKind where
  | array
  | text
  | map
  | set
  | wrapped
  | helper
deriving DecidableEq, Repr, Inhabited

/-- The objects that the engine refers to. -/
inductive Intrinsic where
  | prototype (of : StandardClass)
  | constructor (of : StandardClass)
  | iterator (kind : IteratorKind)
  | asyncFunction
  | global
  | math
  | json
  | reflect
deriving DecidableEq, Repr, Inhabited

namespace Intrinsic

/-- The place of an intrinsic object. -/
def place : Intrinsic → Nat
  | .prototype of => 2 * of.position
  | .constructor of => 2 * of.position + 1
  | .iterator kind => 48 + kind.ctorIdx
  | .asyncFunction => 54
  | .global => 55
  | .math => 56
  | .json => 57
  | .reflect => 58

/-- Every intrinsic object, in the order of the places. -/
def all : List Intrinsic :=
  StandardClass.all.flatMap (fun of => [.prototype of, .constructor of]) ++
    [.iterator .array, .iterator .text, .iterator .map, .iterator .set, .iterator .wrapped,
      .iterator .helper, .asyncFunction, .global, .math, .json, .reflect]

/-- The places are the positions in the list of all intrinsic objects. -/
example : all.map place = List.range all.length := by decide

/-- The identity of an intrinsic object. -/
def ref (intrinsic : Intrinsic) : Ref := ⟨intrinsic.place⟩

end Intrinsic

/-- The symbols that the language itself uses. -/
inductive WellKnown where
  | iterator
  | asyncIterator
  | hasInstance
  | toPrimitive
  | toStringTag
  | species
  | isConcatSpreadable
  | unscopables
  | match
  | matchAll
  | replace
  | search
  | split
deriving DecidableEq, Repr, Inhabited

namespace WellKnown

/-- The name of a symbol among the members of its class. -/
def name : WellKnown → String
  | .iterator => "iterator"
  | .asyncIterator => "asyncIterator"
  | .hasInstance => "hasInstance"
  | .toPrimitive => "toPrimitive"
  | .toStringTag => "toStringTag"
  | .species => "species"
  | .isConcatSpreadable => "isConcatSpreadable"
  | .unscopables => "unscopables"
  | .match => "match"
  | .matchAll => "matchAll"
  | .replace => "replace"
  | .search => "search"
  | .split => "split"

/-- Every symbol, in the order of their places. -/
def all : List WellKnown :=
  [.iterator, .asyncIterator, .hasInstance, .toPrimitive, .toStringTag, .species,
    .isConcatSpreadable, .unscopables, .match, .matchAll, .replace, .search, .split]

/-- The identity of a symbol. -/
def ref (symbol : WellKnown) : SymbolRef := ⟨symbol.ctorIdx⟩

/-- A symbol as a key. -/
def key (symbol : WellKnown) : Key := .symbol symbol.ref

/-- The description of a symbol. -/
def description (symbol : WellKnown) : String := "Symbol." ++ symbol.name

end WellKnown

end Scratchpad.Script
