import Scratchpad.Script.Machine

/-!
# Access to properties

Reading, assigning, defining and deleting properties of values, with the functions that a property
may call. What is forbidden is found as a fault; whether it is thrown depends on who asked.
-/
namespace Scratchpad.Script

open Scratchpad.Text (Units)

/-! ## Names in messages -/

/-- The number of bytes after which a name that is not plain ASCII is cut off. -/
def maxNameBytes : Nat := 58

/-- Characters up to a number of bytes; one more is taken if it begins before the limit. -/
def shownChars : Nat → List Char → List Char
  | _, [] => []
  | left, c :: rest => if left = 0 then [] else c :: shownChars (left - c.utf8Size) rest

/-- A name as a message shows it. -/
def shownName (name : Units) : String :=
  let text := name.lossy
  if name.codes.all (· < 128) then text else String.ofList (shownChars maxNameBytes text.toList)

/-- A key as a message shows it. -/
def shownKey (memory : Memory) : Key → String
  | .text name => shownName name
  | .symbol ref => shownName ((memory.description ref).getD .empty)
  | .hidden place => shownName (Units.ofString "#" ++ memory.hidden[place]?.getD .empty)

/-- A missing value as a message shows it. -/
def shownMissing : Value → String
  | .undefined => "undefined"
  | _ => "null"

/-- Throw because a property of a missing value is read. -/
def raiseRead [Machine] {α : Type} (value : Value) (key : Key) : Eval α := do
  let shown ← .view (shownKey · key)
  raiseType (.readOfMissing shown (shownMissing value))

/-! ## Prototypes -/

/-- The prototype of a value that is no object. -/
def prototypeOfPrimitive : Value → Option Ref
  | .text _ => some (Intrinsic.prototype .text).ref
  | .number _ => some (Intrinsic.prototype .number).ref
  | .boolean _ => some (Intrinsic.prototype .boolean).ref
  | .symbol _ => some (Intrinsic.prototype .symbol).ref
  | .bigint _ => some (Intrinsic.prototype .bigint).ref
  | _ => none

/-- The prototype of an object. -/
def prototypeOf [Machine] (ref : Ref) : Eval (Option Ref) :=
  .view fun memory => (memory.object ref).prototype

/-- Change the prototype of an object: what forbids it, if something does. -/
def setPrototype [Machine] (ref : Ref) (prototype : Option Ref) : Eval (Option TypeFault) :=
  .change fun memory =>
    let object := memory.object ref
    if object.prototype == prototype then (none, memory)
    else if !object.extensible then (some .notExtensible, memory)
    else
      let isCyclic := match prototype with
        | some prototype => memory.descendsFrom ref memory.objects.size prototype
        | none => false
      if isCyclic then (some .cyclicPrototype, memory)
      else (none, memory.modify ref fun object => { object with prototype })

/-! ## Reading -/

/-- An own property of an object. -/
def own? [Machine] (ref : Ref) (key : Key) : Eval (Option Slot) :=
  .view fun memory => (memory.object ref).own? key

/-- The own keys of an object. -/
def ownKeys [Machine] (ref : Ref) : Eval (Array Key) :=
  .view fun memory => (memory.object ref).ownKeys

/-- Whether an object has or inherits a property. -/
def has [Machine] (ref : Ref) (key : Key) : Eval Bool :=
  .view fun memory => (memory.lookup ref key).isSome

/-- Whether a value can be called. -/
def isCallable [Machine] (value : Value) : Eval Bool := .view (·.isCallable value)

/-- Whether a value can make objects. -/
def isConstructor [Machine] (value : Value) : Eval Bool := .view (·.isConstructor value)

/-- Whether an object can get more properties. -/
def isExtensible [Machine] (ref : Ref) : Eval Bool :=
  .view fun memory => (memory.object ref).extensible

/-- What a property gives to someone who reads it. -/
def Slot.read [Machine] (receiver : Value) : Slot → Eval Value
  | .data value _ _ _ => return value
  | .accessor (some getter) _ _ _ => Machine.call (.object getter) receiver #[]
  | .accessor none _ _ _ => return .undefined

/-- The value of a property that an object has or inherits, read for a value. -/
def getFor [Machine] (ref : Ref) (key : Key) (receiver : Value) : Eval Value := do
  match ← Eval.view (·.lookup ref key) with
  | some (_, slot) => slot.read receiver
  | none => return .undefined

/-- The value of a property of an object. -/
def getOf [Machine] (ref : Ref) (key : Key) : Eval Value := getFor ref key (.object ref)

/-- The value of a property of a value. -/
def get [Machine] (value : Value) (key : Key) : Eval Value := do
  match value with
  | .object ref => getOf ref key
  | .undefined | .null => raiseRead value key
  | .text text =>
    match Object.textSlot? text key with
    | some (.data found _ _ _) => return found
    | _ => getFor (Intrinsic.prototype .text).ref key value
  | _ =>
    match prototypeOfPrimitive value with
    | some prototype => getFor prototype key value
    | none => return .undefined

/-- The value of a property with a plain name. -/
def getNamed [Machine] (value : Value) (name : String) : Eval Value := get value (.ofString name)

/-- A method of a value; none if it is missing. -/
def method? [Machine] (value : Value) (key : Key) : Eval (Option Value) := do
  let found ← get value key
  if found.isMissing then return none
  else if ← isCallable found then return some found
  else raiseType .notFunction

/-- Call a method of a value. -/
def invoke [Machine] (value : Value) (key : Key) (arguments : Array Value) : Eval Value := do
  let method ← get value key
  Machine.call method value arguments

/-! ## Definitions -/

/-- What a definition says about a property. -/
structure Descriptor where
  value : Option Value := none
  getter : Option (Option Ref) := none
  setter : Option (Option Ref) := none
  writable : Option Bool := none
  enumerable : Option Bool := none
  configurable : Option Bool := none
deriving Inhabited

namespace Descriptor

/-- Whether a definition speaks of functions. -/
def isAccessor (descriptor : Descriptor) : Bool :=
  descriptor.getter.isSome || descriptor.setter.isSome

/-- Whether a definition speaks of a value. -/
def isData (descriptor : Descriptor) : Bool :=
  descriptor.value.isSome || descriptor.writable.isSome

/-- The property that a definition makes where there is none. -/
def fresh (descriptor : Descriptor) : Slot :=
  let enumerable := descriptor.enumerable.getD false
  let configurable := descriptor.configurable.getD false
  if descriptor.isAccessor then
    .accessor (descriptor.getter.getD none) (descriptor.setter.getD none) enumerable configurable
  else
    .data (descriptor.value.getD .undefined) (descriptor.writable.getD false) enumerable configurable

/-- The property that a definition makes of one that there is. -/
def merge (descriptor : Descriptor) (slot : Slot) : Slot :=
  let enumerable := descriptor.enumerable.getD slot.isEnumerable
  let configurable := descriptor.configurable.getD slot.isConfigurable
  match slot with
  | .data value writable _ _ =>
    if descriptor.isAccessor then
      .accessor (descriptor.getter.getD none) (descriptor.setter.getD none) enumerable configurable
    else
      .data (descriptor.value.getD value) (descriptor.writable.getD writable) enumerable configurable
  | .accessor getter setter _ _ =>
    if descriptor.isData then
      .data (descriptor.value.getD .undefined) (descriptor.writable.getD false) enumerable
        configurable
    else
      .accessor (descriptor.getter.getD getter) (descriptor.setter.getD setter) enumerable
        configurable

/-- Whether a definition may change a property that is not configurable. -/
def fits (descriptor : Descriptor) (slot : Slot) : Bool :=
  let sameVisibility := descriptor.configurable ≠ some true &&
    (descriptor.enumerable.all (· == slot.isEnumerable))
  sameVisibility &&
    match slot with
    | .data value writable _ _ =>
      !descriptor.isAccessor &&
        (writable || (descriptor.writable ≠ some true &&
          descriptor.value.all fun new => new.same value))
    | .accessor getter setter _ _ =>
      !descriptor.isData && descriptor.getter.all (· == getter) &&
        descriptor.setter.all (· == setter)

end Descriptor

/-- The greatest length of an array. -/
def maxLength : Nat := 4294967295

/-- The length that a number is. -/
def lengthOf? (value : Float) : Option Nat :=
  if 0.0 ≤ value && value ≤ 4294967295.0 && value.floor == value then some value.toUInt64.toNat
  else none

/-- The array with a length: elements beyond it are removed up to one that has to stay. -/
def Object.withLength (object : Object) (wanted : Nat) (fix : Bool) : Object × Bool :=
  match object with
  | { prototype, extensible, properties, nature := .array items length fixed } =>
    if wanted ≥ length then
      ({ prototype, extensible, properties, nature := .array items wanted (fixed || fix) }, true)
    else
      let stays := properties.foldl (fun found (key, slot) =>
        match key.index? with
        | some index => if index ≥ wanted && !slot.isConfigurable then max found (index + 1) else found
        | none => found) wanted
      let properties := properties.filter fun (key, _) =>
        match key.index? with
        | some index => index < stays
        | none => true
      ({ prototype, extensible, properties,
         nature := .array (items.shrink stays) stays (fixed || fix) }, stays = wanted)
  | object => (object, false)

/-- Change an object and find something. -/
def changeObject [Machine] {α : Type} [Inhabited α] (ref : Ref) (step : Object → α × Object) :
    Eval α :=
  .change fun memory =>
    match memory with
    | { objects, environments, symbols, shared, hidden, table, captures, ticks, limit, used,
        completion, standard, seed } =>
      if h : ref.place < objects.size then
        let object := objects[ref.place]
        let objects := objects.set ref.place default
        let (found, object) := step object
        (found, { objects := objects.setIfInBounds ref.place object, environments, symbols, shared,
                  hidden, table, captures, ticks, limit, used, completion, standard, seed })
      else (default, { objects, environments, symbols, shared, hidden, table, captures, ticks,
                       limit, used, completion, standard, seed })

/-- Change an object. -/
def updateObject [Machine] (ref : Ref) (step : Object → Object) : Eval Unit :=
  .update fun memory => memory.modify ref step

/-- Define the length of an array: what forbids it, if something does. -/
def defineLength [Machine] (ref : Ref) (wanted : Option Nat) (descriptor : Descriptor) :
    Eval (Option TypeFault) :=
  changeObject ref fun object =>
    match object.nature with
    | .array _ length fixed =>
      let slot := Slot.data (.ofNat length) (!fixed) false false
      let descriptor := { descriptor with value := wanted.map Value.ofNat }
      if !descriptor.fits slot then (some .notConfigurable, object)
      else
        let (object, done) := object.withLength (wanted.getD length)
          (descriptor.writable = some false)
        (if done then none else some .notConfigurable, object)
    | _ => (none, object)

/-- Whether an element can be added to an array behind its end. -/
def Object.keepsLength (object : Object) (key : Key) : Bool :=
  match object.nature with
  | .array _ length true =>
    match key.index? with
    | some index => index ≥ length
    | none => false
  | _ => false

/-- Define an own property other than the length of an array: what forbids it, if something does. -/
def defineSlot [Machine] (ref : Ref) (key : Key) (descriptor : Descriptor) :
    Eval (Option TypeFault) := do
  charge (2 * Memory.slotSize)
  changeObject ref fun object =>
    match object.own? key with
    | none =>
      if !object.extensible then (some .notExtensible, object)
      else if object.keepsLength key then (some .notConfigurable, object)
      else (none, object.put key descriptor.fresh)
    | some slot =>
      if slot.isConfigurable || descriptor.fits slot then
        (none, object.put key (descriptor.merge slot))
      else (some .notConfigurable, object)

/-- Put an own property as an assignment makes it: what forbids it, if something does. -/
def create [Machine] (ref : Ref) (key : Key) (value : Value) : Eval (Option TypeFault) :=
  defineSlot ref key
    { value := some value, writable := some true, enumerable := some true,
      configurable := some true }

/-- Throw what forbids something, if anything does. -/
def demand [Machine] (fault : Option TypeFault) : Eval Unit := do
  match fault with
  | some fault => raiseType fault
  | none => return ()

/-- Put an own property as an assignment makes it. -/
def createOrThrow [Machine] (ref : Ref) (key : Key) (value : Value) : Eval Unit := do
  demand (← create ref key value)

/-- Put a property that is out of sight, whatever was there. -/
def putQuiet [Machine] (ref : Ref) (key : Key) (value : Value) : Eval Unit :=
  updateObject ref (·.put key (.quiet value))

/-! ## Deleting -/

/-- Delete an own property: whether it is gone. -/
def delete [Machine] (ref : Ref) (key : Key) : Eval Bool :=
  changeObject ref fun object =>
    match object.own? key with
    | none => (true, object)
    | some slot => if slot.isConfigurable then (true, object.remove key) else (false, object)

end Scratchpad.Script
