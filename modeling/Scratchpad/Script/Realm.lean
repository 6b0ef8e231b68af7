import Scratchpad.Script.Expressions

/-!
# The realm

The objects that every script finds, and the memory at the beginning of a run. The objects that the
engine refers to stand at their fixed places; the native functions follow behind them.
-/
namespace Scratchpad.Script.Realm

open Scratchpad.Text (Units)

/-! ## Assembling objects -/

/-- A property that an object is to be given. -/
structure Entry where
  holder : Ref
  key : Key
  slot : Slot

/-- Standard objects that are being put together. -/
structure Draft where
  /-- The objects behind those at fixed places, the latest first. -/
  made : List Object := []
  /-- The number of all objects. -/
  count : Nat
  /-- The properties that the objects are given, the latest first. -/
  entries : List Entry := []

/-- The property of a key that an object is given. -/
def Draft.slot? (draft : Draft) (holder : Ref) (key : Key) : Option Slot :=
  (draft.entries.find? fun entry => entry.holder == holder && entry.key == key).map (·.slot)

/-- A step of putting the standard objects together. -/
abbrev Assembly := StateM Draft

/-- Make an object. -/
def place (object : Object) : Assembly Ref :=
  modifyGet fun draft =>
    (⟨draft.count⟩, { draft with made := object :: draft.made, count := draft.count + 1 })

/-- Give an object a property. -/
def put (holder : Ref) (key : Key) (slot : Slot) : Assembly Unit :=
  modify fun draft => { draft with entries := { holder, key, slot } :: draft.entries }

/-- Give an object a property that is out of sight. -/
def putQuietly (holder : Ref) (name : String) (value : Value) : Assembly Unit :=
  put holder (.ofString name) (.quiet value)

/-- Give an object a property that nothing changes. -/
def putConstant (holder : Ref) (name : String) (value : Value) : Assembly Unit :=
  put holder (.ofString name) (.constant value)

/-- Name the class of the objects that inherit from an object. -/
def putTag (holder : Ref) (tag : String) : Assembly Unit :=
  put holder WellKnown.toStringTag.key (.fixed (.ofString tag))

/-- A native function as an object. -/
def functionObject (native : Native) (name : Units) (arity : Nat) : Object where
  prototype := some (Intrinsic.prototype .function).ref
  properties := functionProperties arity name
  nature := .native native

/-- Make a native function. -/
def makeNative (native : Native) (name : String) (arity : Nat) : Assembly Ref :=
  place (functionObject native (.ofString name) arity)

/-- Give an object a native function as a property. -/
def putFunction (holder : Ref) (native : Native) (name : String) (arity : Nat) :
    Assembly Unit := do
  putQuietly holder name (.object (← makeNative native name arity))

/-- Give an object the functions of a family. -/
def putFamily {α : Type} (holder : Ref) (native : α → Native) (family : List (α × String × Nat)) :
    Assembly Unit :=
  family.forM fun (function, name, arity) => putFunction holder (native function) name arity

/-- The name of a native function under a symbol. -/
def symbolName (symbol : WellKnown) : String := "[" ++ symbol.description ++ "]"

/-- Give an object a native function under a symbol. -/
def putUnderSymbol (holder : Ref) (native : Native) (symbol : WellKnown) (arity : Nat)
    (slot : Value → Slot) : Assembly Unit := do
  put holder symbol.key (slot (.object (← makeNative native (symbolName symbol) arity)))

/-- Give an object a getter. -/
def putGetter (holder : Ref) (accessor : Accessor) (key : Key) (name : String) :
    Assembly Unit := do
  let getter ← makeNative (.accessor accessor) ("get " ++ name) 0
  put holder key (.accessor (some getter) none false true)

/-- Give a constructor the getter of what makes objects like those that it makes. -/
def putSpecies (of : StandardClass) : Assembly Unit :=
  putGetter (Intrinsic.constructor of).ref .species WellKnown.species.key (symbolName .species)

/-- Give an object a property of another one under a second name. -/
def putAlias (holder : Ref) (key : Key) (source : Ref) (name : String) : Assembly Unit := do
  let draft ← MonadState.get
  match draft.slot? source (.ofString name) with
  | some slot => put holder key slot
  | none => return ()

/-! ## Objects at fixed places -/

/-- The parent of the prototype of a class. -/
def prototypeParent : StandardClass → Option Intrinsic
  | .object => none
  | .error .error => some (.prototype .object)
  | .error _ => some (.prototype (.error .error))
  | _ => some (.prototype .object)

/-- What the class of a prototype adds to it. -/
def prototypeNature : StandardClass → Nature
  | .function => .native (.functionMethod .empty)
  | .array => .array #[] 0 false
  | .text => .wrapper (.text .empty)
  | .number => .wrapper (.number 0.0)
  | .boolean => .wrapper (.boolean false)
  | _ => .plain

/-- The parent of the constructor of a class. -/
def constructorParent : StandardClass → Intrinsic
  | .error .error => .prototype .function
  | .error _ => .constructor (.error .error)
  | _ => .prototype .function

/-- The constructor of a class. -/
def constructorObject (of : StandardClass) : Object :=
  { functionObject (.constructor of) (.ofString of.name) of.arity with
    prototype := some (constructorParent of).ref }

/-- An object at a fixed place at first. -/
def initial : Intrinsic → Object
  | .prototype of =>
    { prototype := (prototypeParent of).map Intrinsic.ref
      properties := if of = .function then functionProperties 0 .empty else #[]
      nature := prototypeNature of }
  | .constructor of => constructorObject of
  | .iterator _ => { prototype := some (Intrinsic.prototype .iterator).ref }
  | .asyncFunction => { prototype := some (Intrinsic.prototype .function).ref }
  | .global | .math | .json | .reflect => { prototype := some (Intrinsic.prototype .object).ref }

/-! ## Classes -/

/-- Tie a constructor and a prototype together. -/
def tie (constructor prototype : Ref) : Assembly Unit := do
  put constructor .prototype (.constant (.object prototype))
  put prototype .constructor (.quiet (.object constructor))

/-- The members of the class of objects. -/
def assembleObjects : Assembly Unit := do
  let prototype := (Intrinsic.prototype .object).ref
  tie (Intrinsic.constructor .object).ref prototype
  putFamily (Intrinsic.constructor .object).ref .object ObjectFunction.table
  putFamily prototype .objectMethod ObjectMethod.table
  let getter ← makeNative (.accessor .getPrototype) "get __proto__" 0
  let setter ← makeNative (.accessor .setPrototype) "set __proto__" 1
  put prototype (.ofString "__proto__") (.accessor (some getter) (some setter) false true)

/-- The members of the class of functions. -/
def assembleFunctions : Assembly Unit := do
  let prototype := (Intrinsic.prototype .function).ref
  putFamily prototype .functionMethod FunctionMethod.table
  putUnderSymbol prototype (.functionMethod .hasInstance) .hasInstance 1 .constant
  tie (Intrinsic.constructor .function).ref prototype
  let waiting := Intrinsic.asyncFunction.ref
  let constructor ← place
    { functionObject .asyncFunction (.ofString "AsyncFunction") 1 with
      prototype := some (Intrinsic.constructor .function).ref }
  put constructor .prototype (.constant (.object waiting))
  put waiting .constructor (.fixed (.object constructor))
  putTag waiting "AsyncFunction"

/-- The methods of arrays whose names are hidden in a `with` statement. -/
def unscopables : List String :=
  ["at", "copyWithin", "entries", "fill", "find", "findIndex", "findLast", "findLastIndex", "flat",
    "flatMap", "includes", "keys", "toReversed", "toSorted", "toSpliced", "values"]

/-- The members of the class of arrays. -/
def assembleArrays : Assembly Unit := do
  let constructor := (Intrinsic.constructor .array).ref
  let prototype := (Intrinsic.prototype .array).ref
  putFamily prototype .arrayMethod ArrayMethod.table
  putAlias prototype WellKnown.iterator.key prototype "values"
  let hidden ← place
    { prototype := none
      properties := (unscopables.map fun name =>
        (Key.ofString name, Slot.plain (.boolean true))).toArray }
  put prototype WellKnown.unscopables.key (.fixed (.object hidden))
  tie constructor prototype
  putFamily constructor .array ArrayFunction.table
  putSpecies .array

/-- The members of the class of strings. -/
def assembleTexts : Assembly Unit := do
  let constructor := (Intrinsic.constructor .text).ref
  let prototype := (Intrinsic.prototype .text).ref
  putFamily prototype .textMethod TextMethod.table
  putAlias prototype (.ofString "trimRight") prototype "trimEnd"
  putAlias prototype (.ofString "trimLeft") prototype "trimStart"
  putUnderSymbol prototype (.textMethod .iterator) .iterator 0 .quiet
  tie constructor prototype
  putFamily constructor .text TextFunction.table

/-- The numbers that have names. -/
def namedNumbers : List (String × Float) :=
  [("MAX_VALUE", Float.ofBits 0x7FEFFFFFFFFFFFFF), ("MIN_VALUE", Float.ofBits 1),
    ("NaN", Decimal.nan), ("NEGATIVE_INFINITY", -Decimal.infinity),
    ("POSITIVE_INFINITY", Decimal.infinity), ("EPSILON", Float.ofBits 0x3CB0000000000000),
    ("MAX_SAFE_INTEGER", 9007199254740991.0), ("MIN_SAFE_INTEGER", -9007199254740991.0)]

/-- The members of the classes of numbers, truth values, symbols and big integers. -/
def assemblePrimitives : Assembly Unit := do
  let number := (Intrinsic.constructor .number).ref
  putFamily (Intrinsic.prototype .number).ref .numberMethod NumberMethod.table
  tie number (Intrinsic.prototype .number).ref
  putAlias number (.ofString "parseInt") Intrinsic.global.ref "parseInt"
  putAlias number (.ofString "parseFloat") Intrinsic.global.ref "parseFloat"
  putFamily number .number NumberFunction.table
  namedNumbers.forM fun (name, value) => putConstant number name (.number value)
  let boolean := (Intrinsic.prototype .boolean).ref
  putFamily boolean .booleanMethod BooleanMethod.table
  tie (Intrinsic.constructor .boolean).ref boolean
  let symbol := (Intrinsic.prototype .symbol).ref
  putFamily symbol .symbolMethod SymbolMethod.table
  putUnderSymbol symbol (.symbolMethod .toPrimitive) .toPrimitive 1 .fixed
  putTag symbol "Symbol"
  putGetter symbol .description (.ofString "description") "description"
  tie (Intrinsic.constructor .symbol).ref symbol
  putFamily (Intrinsic.constructor .symbol).ref .symbol SymbolFunction.table
  WellKnown.all.forM fun known =>
    putConstant (Intrinsic.constructor .symbol).ref known.name (.symbol known.ref)
  let bigint := (Intrinsic.prototype .bigint).ref
  putFamily bigint .bigintMethod BigintMethod.table
  putTag bigint "BigInt"
  tie (Intrinsic.constructor .bigint).ref bigint
  putFamily (Intrinsic.constructor .bigint).ref .bigint BigintFunction.table

/-- The members of a class of errors. -/
def assembleError (kind : ErrorKind) : Assembly Unit := do
  let constructor := (Intrinsic.constructor (.error kind)).ref
  let prototype := (Intrinsic.prototype (.error kind)).ref
  if kind = .error then putFunction prototype .errorText "toString" 0
  putQuietly prototype "name" (.ofString kind.name)
  putQuietly prototype "message" (.text .empty)
  tie constructor prototype
  if kind = .error then
    putFunction constructor .captureStack "captureStackTrace" 2
    putQuietly constructor "stackTraceLimit" (.number 10.0)

/-- The members of the classes of maps and sets. -/
def assembleCollections : Assembly Unit := do
  let map := (Intrinsic.prototype .map).ref
  putFamily map .mapMethod MapMethod.table
  putGetter map .mapSize (.ofString "size") "size"
  putAlias map WellKnown.iterator.key map "entries"
  putTag map "Map"
  tie (Intrinsic.constructor .map).ref map
  putFunction (Intrinsic.constructor .map).ref .mapGroup "groupBy" 2
  putSpecies .map
  let set := (Intrinsic.prototype .set).ref
  putFamily set .setMethod SetMethod.table
  putGetter set .setSize (.ofString "size") "size"
  putAlias set (.ofString "keys") set "values"
  putAlias set WellKnown.iterator.key set "values"
  putTag set "Set"
  tie (Intrinsic.constructor .set).ref set
  putSpecies .set

/-- The members of the classes whose members do not stay alive by them. -/
def assembleWeak : Assembly Unit := do
  let map := (Intrinsic.prototype .weakMap).ref
  putFamily map .weakMethod WeakMethod.ofMaps
  putTag map "WeakMap"
  tie (Intrinsic.constructor .weakMap).ref map
  let set := (Intrinsic.prototype .weakSet).ref
  putFamily set .weakMethod WeakMethod.ofSets
  putTag set "WeakSet"
  tie (Intrinsic.constructor .weakSet).ref set
  let reference := (Intrinsic.prototype .weakRef).ref
  putFunction reference (.weakMethod .deref) "deref" 0
  putTag reference "WeakRef"
  tie (Intrinsic.constructor .weakRef).ref reference

/-- The members of the class of promises. -/
def assemblePromises : Assembly Unit := do
  let prototype := (Intrinsic.prototype .promise).ref
  putFamily prototype .promiseMethod PromiseMethod.table
  putTag prototype "Promise"
  tie (Intrinsic.constructor .promise).ref prototype
  putFamily (Intrinsic.constructor .promise).ref .promise PromiseFunction.table
  putSpecies .promise

/-- The members of a kind of built-in iterators. -/
def assembleIterator (kind : IteratorKind) (tag : String) (endsEarly : Bool) : Assembly Unit := do
  let prototype := (Intrinsic.iterator kind).ref
  putFunction prototype (.resume kind .next) "next" 0
  if endsEarly then putFunction prototype (.resume kind .return) "return" 0
  if !tag.isEmpty then putTag prototype tag

/-- The members of all iterators. -/
def assembleIterators : Assembly Unit := do
  let prototype := (Intrinsic.prototype .iterator).ref
  putFamily prototype .iteratorMethod IteratorMethod.table
  putUnderSymbol prototype .iteratorSelf .iterator 0 .quiet
  putTag prototype "Iterator"
  tie (Intrinsic.constructor .iterator).ref prototype
  putFunction (Intrinsic.constructor .iterator).ref .iteratorFrom "from" 1
  assembleIterator .array "Array Iterator" false
  assembleIterator .text "String Iterator" false
  assembleIterator .map "Map Iterator" false
  assembleIterator .set "Set Iterator" false
  assembleIterator .wrapped "" true
  assembleIterator .helper "Iterator Helper" true

/-! ## Objects that only hold functions -/

/-- The constants of mathematics. -/
def mathConstants : List (String × Float) :=
  [("E", 2.718281828459045), ("LN10", 2.302585092994046), ("LN2", 0.6931471805599453),
    ("LOG2E", 1.4426950408889634), ("LOG10E", 0.4342944819032518), ("PI", 3.141592653589793),
    ("SQRT1_2", 0.7071067811865476), ("SQRT2", 1.4142135623730951)]

/-- The members of the objects that only hold functions. -/
def assembleHolders : Assembly Unit := do
  let math := Intrinsic.math.ref
  putFamily math .math MathFunction.table
  putTag math "Math"
  mathConstants.forM fun (name, value) => putConstant math name (.number value)
  putFamily Intrinsic.json.ref .json JsonFunction.table
  putTag Intrinsic.json.ref "JSON"
  putFamily Intrinsic.reflect.ref .reflect ReflectFunction.table
  putTag Intrinsic.reflect.ref "Reflect"

/-- The names that every script finds. -/
def assembleGlobal : Assembly Unit := do
  let global := Intrinsic.global.ref
  putFamily global .global GlobalFunction.table
  StandardClass.all.forM fun of =>
    putQuietly global of.name (.object (Intrinsic.constructor of).ref)
  putQuietly global "Math" (.object Intrinsic.math.ref)
  putQuietly global "JSON" (.object Intrinsic.json.ref)
  putQuietly global "Reflect" (.object Intrinsic.reflect.ref)
  putConstant global "Infinity" (.number Decimal.infinity)
  putConstant global "NaN" (.number Decimal.nan)
  putConstant global "undefined" .undefined
  putQuietly global "globalThis" (.object global)
  putTag global "global"

/-- Put all standard objects together. -/
def assemble : Assembly Unit := do
  assembleGlobal
  assembleObjects
  assembleFunctions
  assembleArrays
  assembleTexts
  assemblePrimitives
  ErrorKind.all.forM assembleError
  assembleCollections
  assembleWeak
  assemblePromises
  assembleIterators
  assembleHolders

/-! ## Memory -/

/-- An object with the properties that it is given, the latest of them first in a list. -/
def withEntries (object : Object) (place : Nat) : List Entry → Object
  | [] => object
  | entry :: earlier =>
    let before := withEntries object place earlier
    if entry.holder.place = place then before.put entry.key entry.slot else before

/-- The objects from a place on with the properties that they are given. -/
def complete (entries : List Entry) : Nat → List Object → List Object
  | _, [] => []
  | place, object :: rest =>
    withEntries object place entries :: complete entries (place + 1) rest

/-- The standard objects. -/
def objects : Array Object :=
  let fixed := Intrinsic.all.map initial
  let draft := (assemble.run { count := fixed.length }).2
  (complete draft.entries 0 (fixed ++ draft.made.reverse)).toArray

/-- The outermost environment: the properties of the global object are its names. -/
def outermost : Environment where
  parent := none
  object := some Intrinsic.global.ref
  activation := some {
    this := some (.object Intrinsic.global.ref), function := none, newTarget := none, home := none }
  holdsVariables := true

/-- Memory at the beginning of a run with budgets. -/
def memory (ticks : Nat) (limit : Option Nat) : Memory where
  objects := objects
  environments := #[outermost]
  symbols := (WellKnown.all.map fun known => some (Units.ofString known.description)).toArray
  table := default
  ticks
  limit
  standard := objects.size

end Scratchpad.Script.Realm
