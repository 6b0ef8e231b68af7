import Scratchpad.Script.Conversion

/-!
# Assignments to properties

An assignment goes to the property that an object has or inherits: a setter is called, a value of
the object itself is replaced, and anything else makes a property of the object that was assigned to.
-/
namespace Scratchpad.Script

open Scratchpad.Text (Units)

/-- The length that a value is. -/
def toArrayLength [Machine] (value : Value) : Eval Nat := do
  match lengthOf? (← toNumber value) with
  | some length => return length
  | none => raiseRange .arrayLength

/-- The fault of an assignment to a property that cannot be changed. -/
def readOnly [Machine] (key : Key) : Eval TypeFault := return .readOnly (← .view (shownKey · key))

/-- Assign the length of an array: what forbids it, if something does. -/
def setLength [Machine] (ref : Ref) (value : Value) : Eval (Option TypeFault) := do
  let wanted ← toArrayLength value
  match ← defineLength ref (some wanted) {} with
  | none => return none
  | some _ =>
    let slot ← own? ref .length
    if (slot.map Slot.isWritable) = some false then return some (← readOnly .length)
    else return some .notConfigurable

/-- Assign an own value of an object that has one: what forbids it, if something does. -/
def replace [Machine] (ref : Ref) (key : Key) (value : Value) : Eval (Option TypeFault) := do
  let isLength ← Eval.view fun memory => key == .length && (memory.object ref).isArray
  if isLength then setLength ref value
  else
    updateObject ref fun object =>
      match object.own? key with
      | some (.data _ writable enumerable configurable) =>
        object.put key (.data value writable enumerable configurable)
      | _ => object
    return none

/-- Assign a property that a receiver may have: what forbids it, if something does. -/
def setOwn [Machine] (receiver : Value) (key : Key) (value : Value) :
    Eval (Option TypeFault) := do
  match receiver with
  | .object ref =>
    match ← own? ref key with
    | some (.data _ true _ _) => replace ref key value
    | some (.data _ false _ _) => return some (← readOnly key)
    | some (.accessor ..) => return some .noSetter
    | none => create ref key value
  | _ => return some .notObject

/-- Assign a property of an object for a receiver: what forbids it, if something does. -/
def setFor [Machine] (ref : Ref) (key : Key) (value receiver : Value) :
    Eval (Option TypeFault) := do
  match ← Eval.view (·.lookup ref key) with
  | some (_, .data _ false _ _) => return some (← readOnly key)
  | some (_, .accessor _ (some setter) _ _) =>
    let _ ← Machine.call (.object setter) receiver #[value]
    return none
  | some (_, .accessor _ none _ _) => return some .noSetter
  | some (holder, .data _ true _ _) =>
    if receiver.strictEq (.object holder) then replace holder key value
    else setOwn receiver key value
  | none => setOwn receiver key value

/-- Assign a property of a value: what forbids it, if something does. -/
def set? [Machine] (target : Value) (key : Key) (value : Value) : Eval (Option TypeFault) := do
  match target with
  | .object ref => setFor ref key value target
  | .undefined | .null =>
    let shown ← .view (shownKey · key)
    raiseType (.writeOfMissing shown (shownMissing target))
  | _ =>
    let isOwn := match target with
      | .text text => (Object.textSlot? text key).isSome
      | _ => false
    if isOwn then return some (← readOnly key)
    else
      match prototypeOfPrimitive target with
      | some prototype => setFor prototype key value target
      | none => return some .notObject

/-- Assign a property of a value; what forbids it is thrown in strict code only. -/
def set [Machine] (target : Value) (key : Key) (value : Value) (strict : Bool) : Eval Unit := do
  let fault ← set? target key value
  if strict then demand fault

/-- Assign a property of an object as the standard methods do. -/
def setStrict [Machine] (ref : Ref) (key : Key) (value : Value) : Eval Unit :=
  set (.object ref) key value true

/-- Delete a property as the standard methods do. -/
def deleteStrict [Machine] (ref : Ref) (key : Key) : Eval Unit := do
  if ← delete ref key then return () else raiseType .notDeletable

/-- Define an own property as a definition says: what forbids it, if something does. -/
def define [Machine] (ref : Ref) (key : Key) (descriptor : Descriptor) :
    Eval (Option TypeFault) := do
  let isLength ← Eval.view fun memory => key == .length && (memory.object ref).isArray
  if isLength then
    let wanted ← match descriptor.value with
      | some value => some <$> toArrayLength value
      | none => pure none
    defineLength ref wanted descriptor
  else defineSlot ref key descriptor

/-! ## Descriptors as objects -/

/-- Whether an object that describes a property says something. -/
def described? [Machine] (ref : Ref) (name : String) : Eval (Option Value) := do
  let key := Key.ofString name
  if ← has ref key then return some (← getOf ref key) else return none

/-- The function that an object that describes a property gives. -/
def describedFunction? [Machine] (ref : Ref) (name : String) (fault : TypeFault) :
    Eval (Option (Option Ref)) := do
  match ← described? ref name with
  | none => return none
  | some value =>
    if value.isUndefined then return some none
    else if ← isCallable value then return some value.ref?
    else raiseType fault

/-- The definition that an object gives. -/
def toDescriptor [Machine] (value : Value) : Eval Descriptor := do
  match value with
  | .object ref =>
    let enumerable ← described? ref "enumerable"
    let configurable ← described? ref "configurable"
    let content ← described? ref "value"
    let writable ← described? ref "writable"
    let getter ← describedFunction? ref "get" .badGetter
    let setter ← describedFunction? ref "set" .badSetter
    let descriptor : Descriptor :=
      { value := content, getter, setter, writable := writable.map Value.truth
        enumerable := enumerable.map Value.truth, configurable := configurable.map Value.truth }
    if descriptor.isAccessor && descriptor.isData then raiseType .mixedDescriptor
    else return descriptor
  | _ => raiseType .notObject

/-- An object with properties as an assignment makes them. -/
def makeRecord [Machine] (members : List (String × Value)) : Eval Value := do
  let properties := members.map fun (name, value) => (Key.ofString name, Slot.plain value)
  charge (properties.length * 2 * Memory.slotSize)
  return .object (← allocate
    { prototype := some (Intrinsic.prototype .object).ref, properties := properties.toArray })

/-- An object that describes a property. -/
def describe [Machine] (slot : Slot) : Eval Value :=
  match slot with
  | .data value writable enumerable configurable =>
    makeRecord [("value", value), ("writable", .boolean writable),
      ("enumerable", .boolean enumerable), ("configurable", .boolean configurable)]
  | .accessor getter setter enumerable configurable =>
    let function (ref : Option Ref) : Value := match ref with
      | some ref => .object ref
      | none => .undefined
    makeRecord [("get", function getter), ("set", function setter),
      ("enumerable", .boolean enumerable), ("configurable", .boolean configurable)]

end Scratchpad.Script
