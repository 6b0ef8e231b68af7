import Scratchpad.Script.Library.Arguments

/-!
# Objects in general

The functions that list, define, copy and protect the properties of objects, and the methods that
every object inherits.
-/
namespace Scratchpad.Script

open Scratchpad.Text (Units)

/-- Make an object of the general class from a value. -/
def constructObject [Machine] (invocation : Invocation) : Eval Value := do
  let isOther := match invocation.newTarget with
    | some newTarget => newTarget != (Intrinsic.constructor .object).ref
    | none => false
  if isOther then return .object (← makeFor invocation .object .plain)
  else if invocation.first.isMissing then return .object (← makePlain)
  else return .object (← toObject invocation.first)

/-- The prototype that a value is to be. -/
def toPrototype [Machine] (fault : TypeFault) (value : Value) : Eval (Option Ref) := do
  match value with
  | .object ref => return some ref
  | .null => return none
  | _ => raiseType fault

/-- The own keys of an object that are strings and are seen. -/
def visibleKeys [Machine] (ref : Ref) : Eval (Array Key) := do
  let keys ← ownKeys ref
  keys.filterM fun key => do
    if key.isText then return (← own? ref key).any Slot.isEnumerable else return false

/-- Define the properties that the members of an object describe, from a key on. -/
def defineAll [Machine] (target source : Ref) : List Key → List (Key × Descriptor) → Eval Unit
  | [], found => do
    for (key, descriptor) in found.reverse do
      demand (← define target key descriptor)
  | key :: rest, found => do
    if (← own? source key).any Slot.isEnumerable then
      let descriptor ← toDescriptor (← getOf source key)
      defineAll target source rest ((key, descriptor) :: found)
    else defineAll target source rest found

/-- Define the properties that the members of a value describe. -/
def defineFrom [Machine] (target : Ref) (value : Value) : Eval Unit := do
  let source ← toObject value
  defineAll target source (← ownKeys source).toList []

/-- Copy the own properties of a value that are seen into an object by assignments. -/
def assignFrom [Machine] (target : Ref) (value : Value) : Eval Unit := do
  if value.isMissing then return ()
  else
    let source ← toObject value
    for key in ← ownKeys source do
      if (← own? source key).any Slot.isEnumerable then
        setStrict target key (← getOf source key)

/-- Values in groups by what a function gives for each, in the order in which the groups began. -/
def groupValues [Machine] (items function : Value)
    (toGroup : Value → Eval Value) : Eval (Array (Value × Array Value)) := do
  requireCallable function
  let walk ← Walk.start items
  let (groups, _) ← walk.fold (fun (groups, index) value => do
    let key ← toGroup (← Machine.call function .undefined #[value, .ofNat index])
    let groups := match groups.findIdx? (fun (other, _) => other.sameZero key) with
      | some position => groups.modify position fun (key, values) => (key, values.push value)
      | none => groups.push (key, #[value])
    return (groups, index + 1)) ((#[] : Array (Value × Array Value)), 0)
  return groups

/-- Whether an object is an instance of a prototype in its chain. -/
def isInChain [Machine] (prototype : Ref) (value : Value) : Eval Bool :=
  .view fun memory =>
    match value with
    | .object ref =>
      match (memory.object ref).prototype with
      | some above => memory.descendsFrom prototype memory.objects.size above
      | none => false
    | _ => false

/-- An entry of an object as an array. -/
def makeEntry [Machine] (key value : Value) : Eval Value := makeArray #[key, value]

/-- Carry out a function of the constructor of objects. -/
def runObjectFunction [Machine] (function : ObjectFunction) (invocation : Invocation) :
    Eval Value := do
  let first := invocation.first
  let second := invocation.second
  match function with
  | .create =>
    let prototype ← toPrototype .notPrototype first
    let made ← allocate { prototype }
    if !second.isUndefined then defineFrom made second
    return .object made
  | .getPrototypeOf => return Value.ofRef? (← prototypeOf (← toObject first))
  | .setPrototypeOf =>
    if first.isMissing then raiseType .notObject
    let prototype ← toPrototype .notObject second
    match first with
    | .object ref => demand (← setPrototype ref prototype)
    | _ => pure ()
    return first
  | .defineProperty =>
    let ref ← requireObject first
    let key ← toKey second
    let descriptor ← toDescriptor (invocation.argument 2)
    demand (← define ref key descriptor)
    return first
  | .defineProperties =>
    let ref ← requireObject first
    defineFrom ref second
    return first
  | .getOwnPropertyNames =>
    let keys ← ownKeys (← toObject first)
    makeArray ((keys.filter Key.isText).map Key.value)
  | .getOwnPropertySymbols =>
    let keys ← ownKeys (← toObject first)
    makeArray ((keys.filter (!·.isText)).map Key.value)
  | .groupBy =>
    let groups ← groupValues first second fun value => do return (← toKey value).value
    let made ← allocate { prototype := none }
    for (key, members) in groups do
      createOrThrow made (← toKey key) (← makeArray members)
    return .object made
  | .keys =>
    let keys ← visibleKeys (← toObject first)
    makeArray (keys.map Key.value)
  | .values =>
    let ref ← toObject first
    makeArray (← (← visibleKeys ref).mapM (getOf ref))
  | .entries =>
    let ref ← toObject first
    makeArray (← (← visibleKeys ref).mapM fun key => do makeEntry key.value (← getOf ref key))
  | .isExtensible =>
    match first with
    | .object ref => return .boolean (← isExtensible ref)
    | _ => return .boolean false
  | .preventExtensions =>
    match first with
    | .object ref => updateObject ref fun object => { object with extensible := false }
    | _ => pure ()
    return first
  | .getOwnPropertyDescriptor =>
    let ref ← toObject first
    match ← own? ref (← toKey second) with
    | some slot => describe slot
    | none => return .undefined
  | .getOwnPropertyDescriptors =>
    let ref ← toObject first
    let made ← makePlain
    for key in ← ownKeys ref do
      match ← own? ref key with
      | some slot => createOrThrow made key (← describe slot)
      | none => pure ()
    return .object made
  | .is => return .boolean (first.same second)
  | .assign =>
    let target ← toObject first
    for source in invocation.rest 1 do assignFrom target source
    return .object target
  | .seal | .freeze =>
    match first with
    | .object ref => updateObject ref (·.restrict (function = .freeze))
    | _ => pure ()
    return first
  | .isSealed | .isFrozen =>
    match first with
    | .object ref =>
      return .boolean (← Eval.view fun memory =>
        (memory.object ref).isRestricted (function = .isFrozen))
    | _ => return .boolean true
  | .fromEntries =>
    let made ← makePlain
    let walk ← Walk.start first
    walk.forEach fun entry => do
      let ref ← requireObject entry
      let key ← getIndex ref 0
      let value ← getIndex ref 1
      createOrThrow made (← toKey key) value
    return .object made
  | .hasOwn =>
    let ref ← toObject first
    return .boolean (← own? ref (← toKey second)).isSome

/-- The name of the class of an object among those that the language tells apart. -/
def className (object : Object) : String :=
  match object.nature with
  | .array .. => "Array"
  | .closure _ | .native _ | .bound .. => "Function"
  | .error => "Error"
  | .arguments => "Arguments"
  | .wrapper (.boolean _) => "Boolean"
  | .wrapper (.number _) => "Number"
  | .wrapper (.text _) => "String"
  | _ => "Object"

/-- The text of an object that shows its class. -/
def describeClass [Machine] (value : Value) : Eval Value := do
  match value with
  | .undefined => return .ofString "[object Undefined]"
  | .null => return .ofString "[object Null]"
  | _ =>
    let ref ← toObject value
    let name ← match ← getOf ref WellKnown.toStringTag.key with
      | .text tag => pure tag
      | _ => pure (Units.ofString (className (← Eval.view (·.object ref))))
    return .text (Units.ofString "[object " ++ name ++ Units.ofString "]")

/-- Define a getter or setter of an object. -/
def defineAccessor [Machine] (invocation : Invocation) (getter : Bool) : Eval Value := do
  let ref ← toObject invocation.this
  requireCallable invocation.second
  let key ← toKey invocation.first
  let function := some invocation.second.ref?
  let descriptor : Descriptor :=
    { getter := if getter then function else none
      setter := if getter then none else function
      enumerable := some true
      configurable := some true }
  demand (← define ref key descriptor)
  return .undefined

/-- The getter or setter of a property that an object has or inherits. -/
def findAccessor [Machine] (invocation : Invocation) (getter : Bool) : Eval Value := do
  let ref ← toObject invocation.this
  let key ← toKey invocation.first
  match ← Eval.view (·.lookup ref key) with
  | some (_, .accessor get set _ _) =>
    match if getter then get else set with
    | some function => return .object function
    | none => return .undefined
  | _ => return .undefined

/-- Carry out a method of every object. -/
def runObjectMethod [Machine] (method : ObjectMethod) (invocation : Invocation) :
    Eval Value := do
  let this := invocation.this
  match method with
  | .toString => describeClass this
  | .toLocaleString => invoke this (.ofString "toString") #[]
  | .valueOf => return .object (← toObject this)
  | .hasOwnProperty =>
    let key ← toKey invocation.first
    return .boolean (← own? (← toObject this) key).isSome
  | .isPrototypeOf =>
    if invocation.first.isObject then
      return .boolean (← isInChain (← toObject this) invocation.first)
    else return .boolean false
  | .propertyIsEnumerable =>
    let key ← toKey invocation.first
    return .boolean ((← own? (← toObject this) key).any Slot.isEnumerable)
  | .defineGetter => defineAccessor invocation true
  | .defineSetter => defineAccessor invocation false
  | .lookupGetter => findAccessor invocation true
  | .lookupSetter => findAccessor invocation false

/-- The prototype of a value, as a property of it shows it. -/
def getPrototypeProperty [Machine] (this : Value) : Eval Value := do
  return Value.ofRef? (← prototypeOf (← toObject this))

/-- Change the prototype of a value by a property of it. -/
def setPrototypeProperty [Machine] (this prototype : Value) : Eval Value := do
  if this.isMissing then raiseType .notConvertible
  else
    match this, prototype with
    | .object ref, .object above => demand (← setPrototype ref (some above))
    | .object ref, .null => demand (← setPrototype ref none)
    | _, _ => pure ()
    return .undefined

/-- Carry out a function that does to an object what the language itself can do. -/
def runReflectFunction [Machine] (function : ReflectFunction) (invocation : Invocation) :
    Eval Value := do
  let second := invocation.second
  match function with
  | .apply =>
    requireCallable invocation.first
    let values ← elementsOf (← requireObject (invocation.argument 2))
    Machine.call invocation.first second values
  | .construct =>
    let newTarget := if invocation.arguments.size > 2 then invocation.argument 2
      else invocation.first
    if !(← isConstructor invocation.first) then raiseType .notConstructor
    if !(← isConstructor newTarget) then raiseType .notConstructor
    let target ← requireObject invocation.first
    let asked ← requireObject newTarget
    Machine.construct target (← elementsOf (← requireObject second)) asked
  | _ =>
    let ref ← requireObject invocation.first
    match function with
    | .defineProperty =>
      let key ← toKey second
      let descriptor ← toDescriptor (invocation.argument 2)
      return .boolean (← define ref key descriptor).isNone
    | .deleteProperty => return .boolean (← delete ref (← toKey second))
    | .get =>
      let receiver := if invocation.arguments.size > 2 then invocation.argument 2
        else invocation.first
      getFor ref (← toKey second) receiver
    | .getOwnPropertyDescriptor =>
      match ← own? ref (← toKey second) with
      | some slot => describe slot
      | none => return .undefined
    | .getPrototypeOf => return Value.ofRef? (← prototypeOf ref)
    | .has => return .boolean (← has ref (← toKey second))
    | .isExtensible => return .boolean (← isExtensible ref)
    | .ownKeys => makeArray ((← ownKeys ref).map Key.value)
    | .preventExtensions =>
      updateObject ref fun object => { object with extensible := false }
      return .boolean true
    | .set =>
      let receiver := if invocation.arguments.size > 3 then invocation.argument 3
        else invocation.first
      return .boolean (← setFor ref (← toKey second) (invocation.argument 2) receiver).isNone
    | .setPrototypeOf =>
      let prototype ← toPrototype .notObject second
      return .boolean (← setPrototype ref prototype).isNone
    | _ => return .undefined

end Scratchpad.Script
