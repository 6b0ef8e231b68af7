import Scratchpad.Script.Native

/-!
# Objects

What an object holds: its prototype, its own properties in the order of their insertion, and what
its class adds to that. The first elements of an array stand in a row of their own as long as they
are ordinary; the other ones are properties like those of any object.
-/
namespace Scratchpad.Script

open Scratchpad.Text (Units)

/-- A property: a value, or functions that are called in its place. -/
inductive Slot where
  | data (value : Value) (writable enumerable configurable : Bool)
  | accessor (getter setter : Option Ref) (enumerable configurable : Bool)
deriving Inhabited

namespace Slot

/-- A property as an assignment makes it. -/
def plain (value : Value) : Slot := .data value true true true

/-- A property as the members of standard objects are: out of sight. -/
def quiet (value : Value) : Slot := .data value true false true

/-- A property that only a definition can change. -/
def fixed (value : Value) : Slot := .data value false false true

/-- A property that nothing can change. -/
def constant (value : Value) : Slot := .data value false false false

/-- Whether a property is seen by those who list properties. -/
def isEnumerable : Slot → Bool
  | .data _ _ enumerable _ | .accessor _ _ enumerable _ => enumerable

/-- Whether a property may be deleted and defined anew. -/
def isConfigurable : Slot → Bool
  | .data _ _ _ configurable | .accessor _ _ _ configurable => configurable

/-- Whether a property holds a value that may be assigned. -/
def isWritable : Slot → Bool
  | .data _ writable _ _ => writable
  | .accessor .. => false

/-- The value of a property that is as an assignment makes it. -/
def plainValue? : Slot → Option Value
  | .data value true true true => some value
  | _ => none

/-- A property after its object was sealed, or frozen if asked for. -/
def restrict (freeze : Bool) : Slot → Slot
  | .data value writable enumerable _ => .data value (writable && !freeze) enumerable false
  | .accessor getter setter enumerable _ => .accessor getter setter enumerable false

end Slot

/-- A function with the surroundings in which it was made. -/
structure Closure where
  /-- The function, by its place in the table. -/
  function : Nat
  environment : EnvironmentRef
  /-- Where the values of `this` and the like are found, for a function without its own. -/
  activation : EnvironmentRef
  /-- The object whose prototype `super` refers to. -/
  home : Option Ref
  /-- What a constructor adds to a new object: a key with the function that makes its value, or
  with a finished property. -/
  fields : Array (Key × (Option Ref ⊕ Slot))
deriving Inhabited

/-- What the steps of an iterator over a collection yield. -/
inductive EntryPart where
  | key
  | value
  | both
deriving DecidableEq, Repr

/-- What an iterator helper does with each value. -/
inductive HelperKind where
  | map
  | filter
  | take
  | drop
  | flatMap
deriving DecidableEq, Repr

/-- Where a built-in iterator stands. -/
inductive Cursor where
  | elements (target : Value) (index : Nat) (part : EntryPart)
  | characters (text : Units) (index : Nat)
  | entries (target : Ref) (index : Nat) (part : EntryPart)
  | members (target : Ref) (index : Nat) (part : EntryPart)
  /-- The iterator of an object that is no iterator itself. -/
  | wrapped (iterator next : Value)
  /-- A helper over an iterator: its function, what is left to count, and an inner iterator. -/
  | helper (kind : HelperKind) (iterator next function : Value) (count : Float)
      (inner : Option (Value × Value))
  | finished
deriving Inhabited

/-- What the class of an object adds to its properties. -/
inductive Nature where
  | plain
  /-- An array, with the elements in a row, its length, and whether that is fixed. -/
  | array (items : Array Value) (length : Nat) (fixed : Bool)
  | closure (closure : Closure)
  | native (native : Native)
  /-- A function with the first arguments given. -/
  | bound (target : Ref) (this : Value) (arguments : Array Value)
  | error
  /-- A value that is no object in the form of one. -/
  | wrapper (value : Value)
  | arguments
  /-- A map; deleted entries leave a gap. -/
  | map (entries : Array (Option (Value × Value)))
  | set (members : Array (Option Value))
  | weakMap (entries : Array (Value × Value))
  | weakSet (members : Array Value)
  | weakRef (target : Value)
  | promise
  | iterator (kind : IteratorKind) (cursor : Cursor)
deriving Inhabited

/-- An object. -/
structure Object where
  prototype : Option Ref
  extensible : Bool := true
  /-- The own properties in the order of their insertion. -/
  properties : Array (Key × Slot) := #[]
  nature : Nature := .plain
deriving Inhabited

/-- The key of the length of arrays, strings and functions. -/
def Key.length : Key := .ofString "length"

/-- The key by which a constructor finds the prototype of what it makes. -/
def Key.prototype : Key := .ofString "prototype"

/-- The key of the name of a function or an error. -/
def Key.name : Key := .ofString "name"

/-- The key by which a prototype names its constructor. -/
def Key.constructor : Key := .ofString "constructor"

/-- The key of the message of an error. -/
def Key.message : Key := .ofString "message"

namespace Object

/-- The position of a property among those that are not elements in a row. -/
def find? (properties : Array (Key × Slot)) (key : Key) : Option Nat :=
  properties.findIdx? (·.1 == key)

/-- A property among those that are not elements in a row. -/
def listed? (properties : Array (Key × Slot)) (key : Key) : Option Slot :=
  (properties.find? (·.1 == key)).map (·.2)

/-- An own property of a string in the form of an object. -/
def textSlot? (text : Units) (key : Key) : Option Slot :=
  if key == .length then some (.constant (.ofNat text.size))
  else
    match key.index? with
    | some index =>
      if index < text.size then some (.data (.text (text.slice index (index + 1))) false true false)
      else none
    | none => none

/-- An own property. -/
def own? (object : Object) (key : Key) : Option Slot :=
  match object.nature with
  | .array items length fixed =>
    if key == .length then some (.data (.ofNat length) (!fixed) false false)
    else
      match key.index? with
      | some index =>
        match items[index]? with
        | some value => some (.plain value)
        | none => listed? object.properties key
      | none => listed? object.properties key
  | .wrapper (.text text) =>
    match textSlot? text key with
    | some slot => some slot
    | none => listed? object.properties key
  | _ => listed? object.properties key

/-- Whether there is an own property of a name. -/
def hasOwn (object : Object) (key : Key) : Bool := (object.own? key).isSome

/-- The object with a property among those that are not elements in a row. -/
def list (object : Object) (key : Key) (slot : Slot) : Object :=
  match object with
  | { prototype, extensible, properties, nature } =>
    match find? properties key with
    | some position =>
      { prototype, extensible, nature, properties := properties.setIfInBounds position (key, slot) }
    | none => { prototype, extensible, nature, properties := properties.push (key, slot) }

/-- The properties without one. -/
def unlist (properties : Array (Key × Slot)) (key : Key) : Array (Key × Slot) :=
  match find? properties key with
  | some position => properties.eraseIdxIfInBounds position
  | none => properties

/-- The elements of a row from an index on, as properties. -/
def spilled (items : Array Value) (start : Nat) : Array (Key × Slot) :=
  (items.extract start items.size).mapIdx fun offset value =>
    (.ofNat (start + offset), .plain value)

/-- An array with an element. -/
def putElement (prototype : Option Ref) (extensible : Bool) (properties : Array (Key × Slot))
    (items : Array Value) (length : Nat) (fixed : Bool) (index : Nat) (slot : Slot) : Object :=
  let longer := max length (index + 1)
  match slot.plainValue? with
  | some value =>
    if index < items.size then
      { prototype, extensible, properties,
        nature := .array (items.setIfInBounds index value) length fixed }
    else if index = items.size then
      let properties := if index < length then unlist properties (.ofNat index) else properties
      { prototype, extensible, properties, nature := .array (items.push value) longer fixed }
    else
      list { prototype, extensible, properties, nature := .array items longer fixed }
        (.ofNat index) slot
  | none =>
    if index < items.size then
      let properties := properties ++ spilled items index
      list { prototype, extensible, properties,
             nature := .array (items.extract 0 index) length fixed } (.ofNat index) slot
    else
      list { prototype, extensible, properties, nature := .array items longer fixed }
        (.ofNat index) slot

/-- The object with an own property, which replaces one of the same name. -/
def put (object : Object) (key : Key) (slot : Slot) : Object :=
  match object with
  | { prototype, extensible, properties, nature := .array items length fixed } =>
    match key.index? with
    | some index => putElement prototype extensible properties items length fixed index slot
    | none => list { prototype, extensible, properties, nature := .array items length fixed } key slot
  | object => list object key slot

/-- The object without an own property. -/
def remove (object : Object) (key : Key) : Object :=
  match object with
  | { prototype, extensible, properties, nature := .array items length fixed } =>
    match key.index? with
    | some index =>
      if index < items.size then
        { prototype, extensible
          properties := properties ++ spilled items (index + 1)
          nature := .array (items.extract 0 index) length fixed }
      else { prototype, extensible, properties := unlist properties key,
             nature := .array items length fixed }
    | none => { prototype, extensible, properties := unlist properties key,
                nature := .array items length fixed }
  | { prototype, extensible, properties, nature } =>
    { prototype, extensible, properties := unlist properties key, nature }

/-- Indices with their keys, in ascending order. -/
def insertIndex (index : Nat) : List Nat → List Nat
  | [] => [index]
  | first :: rest => if first < index then first :: insertIndex index rest else index :: first :: rest

/-- The indices among the properties that are not elements in a row, in ascending order. -/
def listedIndices (properties : Array (Key × Slot)) : List Nat :=
  properties.foldr (fun property found =>
    match property.1.index? with
    | some index => insertIndex index found
    | none => found) []

/-- The indices that are own properties, in ascending order. -/
def ownIndices (object : Object) : List Nat :=
  match object.nature with
  | .array items _ _ => List.range items.size ++ listedIndices object.properties
  | .wrapper (.text text) => List.range text.size ++ listedIndices object.properties
  | _ => listedIndices object.properties

/-- The own keys in their order: indices by value, other strings, then symbols. -/
def ownKeys (object : Object) : Array Key :=
  let indices := object.ownIndices.map Key.ofNat
  let names := object.properties.toList.filterMap fun property =>
    if property.1.isText && property.1.index?.isNone then some property.1 else none
  let symbols := object.properties.toList.filterMap fun property =>
    match property.1 with
    | .symbol ref => some (Key.symbol ref)
    | _ => none
  let length := match object.nature with
    | .array .. | .wrapper (.text _) => [Key.length]
    | _ => []
  (indices ++ length ++ names ++ symbols).toArray

/-- Whether an object can be called. -/
def isCallable (object : Object) : Bool :=
  match object.nature with
  | .closure _ | .native _ | .bound .. => true
  | _ => false

/-- Whether an object is an array. -/
def isArray (object : Object) : Bool :=
  match object.nature with
  | .array .. => true
  | _ => false

/-- An array of values. -/
def ofItems (items : Array Value) : Object where
  prototype := some (Intrinsic.prototype .array).ref
  nature := .array items items.size false

/-- The elements of an array in a row that leaves none out, if nothing but it is to be looked at. -/
def dense? (object : Object) : Option (Array Value) :=
  match object.nature with
  | .array items length _ => if items.size = length then some items else none
  | _ => none

/-- Whether all properties are sealed, or frozen if asked for. -/
def isRestricted (object : Object) (frozen : Bool) : Bool :=
  !object.extensible && object.ownKeys.all fun key =>
    match object.own? key with
    | some slot => !slot.isConfigurable && !(frozen && slot.isWritable)
    | none => true

/-- The object with all properties sealed, or frozen if asked for. -/
def restrict (object : Object) (freeze : Bool) : Object :=
  let restricted := object.properties.map fun (key, slot) =>
    if key matches .hidden _ then (key, slot) else (key, slot.restrict freeze)
  match object.nature with
  | .array items length fixed =>
    { object with
      extensible := false
      properties := restricted ++ (spilled items 0).map fun (key, slot) => (key, slot.restrict freeze)
      nature := .array #[] length (fixed || freeze) }
  | _ => { object with extensible := false, properties := restricted }

end Object

end Scratchpad.Script
