import Scratchpad.Script.Library.Objects

/-!
# Maps and sets

Collections that keep the order in which their entries were added. Two keys are the same if they
cannot be told apart, except that the zeros are one key.
-/
namespace Scratchpad.Script

open Scratchpad.Text (Units)

/-- A key as it is kept. -/
def keptKey (value : Value) : Value :=
  match value with
  | .number number => if number == 0.0 then .number 0.0 else value
  | _ => value

/-! ## Maps -/

/-- The position of a key among entries. -/
def findEntry (entries : Array (Option (Value × Value))) (key : Value) : Option Nat :=
  entries.findIdx? fun entry => match entry with
    | some (other, _) => other.sameZero key
    | none => false

/-- The entries of a map. -/
def mapEntries [Machine] (value : Value) : Eval (Ref × Array (Option (Value × Value))) := do
  match value with
  | .object ref =>
    match (← Eval.view (·.object ref)).nature with
    | .map entries => return (ref, entries)
    | _ => raiseType (.wrongReceiver "Map")
  | _ => raiseType (.wrongReceiver "Map")

/-- Change the entries of a map. -/
def updateMap [Machine] {α : Type} [Inhabited α] (ref : Ref)
    (change : Array (Option (Value × Value)) → α × Array (Option (Value × Value))) : Eval α :=
  changeObject ref fun object =>
    match object with
    | { prototype, extensible, properties, nature := .map entries } =>
      let (found, entries) := change entries
      (found, { prototype, extensible, properties, nature := .map entries })
    | object => (default, object)

/-- Put an entry into a map. -/
def putEntry [Machine] (ref : Ref) (key value : Value) : Eval Unit := do
  charge (3 * Memory.slotSize)
  let key := keptKey key
  updateMap ref fun entries =>
    match findEntry entries key with
    | some position => ((), entries.setIfInBounds position (some (key, value)))
    | none => ((), entries.push (some (key, value)))

/-- The number of entries that are not deleted. -/
def countEntries {α : Type} (entries : Array (Option α)) : Nat :=
  entries.foldl (fun count entry => if entry.isSome then count + 1 else count) 0

/-- Call a function for every entry of a map, also for those added meanwhile. -/
def visitMap [Machine] (this function receiver : Value) : Eval Unit := do
  let (ref, _) ← mapEntries this
  requireCallable function
  repeatUntil (fun position => do
    let found ← Eval.view fun memory =>
      match (memory.object ref).nature with
      | .map entries => nextEntry? entries (entries.size + 1) position
      | _ => none
    match found with
    | some ((key, value), position) =>
      let _ ← Machine.call function receiver #[value, key, this]
      return .inr (position + 1)
    | none => return .inl ()) 0

/-- Make a map. -/
def constructMap [Machine] (invocation : Invocation) : Eval Value := do
  requireNew invocation
  let map ← makeFor invocation .map (.map #[])
  if !invocation.first.isMissing then
    let adder ← getNamed (.object map) "set"
    requireCallable adder
    let walk ← Walk.start invocation.first
    walk.forEach fun entry => do
      let ref ← requireObject entry
      let key ← getIndex ref 0
      let value ← getIndex ref 1
      let _ ← Machine.call adder (.object map) #[key, value]
  return .object map

/-- An iterator over the entries of a map. -/
def mapIterator [Machine] (this : Value) (part : EntryPart) : Eval Value := do
  let (ref, _) ← mapEntries this
  makeIterator .map (.entries ref 0 part)

/-- Carry out a method of maps. -/
def runMapMethod [Machine] (method : MapMethod) (invocation : Invocation) : Eval Value := do
  let this := invocation.this
  let key := invocation.first
  match method with
  | .set =>
    let (ref, _) ← mapEntries this
    putEntry ref key invocation.second
    return this
  | .get =>
    let (_, entries) ← mapEntries this
    return ((findEntry entries key).bind fun position =>
      (entries[position]?.getD none).map (·.2)).getD .undefined
  | .has =>
    let (_, entries) ← mapEntries this
    return .boolean (findEntry entries key).isSome
  | .delete =>
    let (ref, _) ← mapEntries this
    let gone ← updateMap ref fun entries =>
      match findEntry entries key with
      | some position => (true, entries.setIfInBounds position none)
      | none => (false, entries)
    return .boolean gone
  | .clear =>
    let (ref, _) ← mapEntries this
    updateMap ref fun entries => ((), entries.map fun _ => none)
    return .undefined
  | .forEach =>
    visitMap this key invocation.second
    return .undefined
  | .values => mapIterator this .value
  | .keys => mapIterator this .key
  | .entries => mapIterator this .both

/-- The number of entries of a map. -/
def mapSize [Machine] (this : Value) : Eval Value := do
  let (_, entries) ← mapEntries this
  return .ofNat (countEntries entries)

/-- A map of values in groups. -/
def groupIntoMap [Machine] (invocation : Invocation) : Eval Value := do
  let groups ← groupValues invocation.first invocation.second fun value => return keptKey value
  let entries ← groups.mapM fun (key, values) => do return some (key, ← makeArray values)
  return .object (← allocate
    { prototype := some (Intrinsic.prototype .map).ref, nature := .map entries })

/-! ## Sets -/

/-- The position of a value among members. -/
def findMember (members : Array (Option Value)) (value : Value) : Option Nat :=
  members.findIdx? fun member => match member with
    | some other => other.sameZero value
    | none => false

/-- The members of a set. -/
def setMembers [Machine] (value : Value) : Eval (Ref × Array (Option Value)) := do
  match value with
  | .object ref =>
    match (← Eval.view (·.object ref)).nature with
    | .set members => return (ref, members)
    | _ => raiseType (.wrongReceiver "Set")
  | _ => raiseType (.wrongReceiver "Set")

/-- Change the members of a set. -/
def updateSet [Machine] {α : Type} [Inhabited α] (ref : Ref)
    (change : Array (Option Value) → α × Array (Option Value)) : Eval α :=
  changeObject ref fun object =>
    match object with
    | { prototype, extensible, properties, nature := .set members } =>
      let (found, members) := change members
      (found, { prototype, extensible, properties, nature := .set members })
    | object => (default, object)

/-- Members with one more, unless it is one already. -/
def withMember (members : Array (Option Value)) (value : Value) : Array (Option Value) :=
  match findMember members value with
  | some _ => members
  | none => members.push (some (keptKey value))

/-- Members without one: whether it was one. -/
def withoutMember (members : Array (Option Value)) (value : Value) :
    Bool × Array (Option Value) :=
  match findMember members value with
  | some position => (true, members.setIfInBounds position none)
  | none => (false, members)

/-- Make a set of members. -/
def makeSet [Machine] (members : Array (Option Value)) : Eval Value := do
  return .object (← allocate
    { prototype := some (Intrinsic.prototype .set).ref, nature := .set members })

/-- Call a function for every member of a set, also for those added meanwhile. -/
def visitSet [Machine] (this function receiver : Value) : Eval Unit := do
  let (ref, _) ← setMembers this
  requireCallable function
  repeatUntil (fun position => do
    let found ← Eval.view fun memory =>
      match (memory.object ref).nature with
      | .set members => nextEntry? members (members.size + 1) position
      | _ => none
    match found with
    | some (value, position) =>
      let _ ← Machine.call function receiver #[value, value, this]
      return .inr (position + 1)
    | none => return .inl ()) 0

/-- Make a set. -/
def constructSet [Machine] (invocation : Invocation) : Eval Value := do
  requireNew invocation
  let set ← makeFor invocation .set (.set #[])
  if !invocation.first.isMissing then
    let adder ← getNamed (.object set) "add"
    requireCallable adder
    let walk ← Walk.start invocation.first
    walk.forEach fun value => do
      let _ ← Machine.call adder (.object set) #[value]
  return .object set

/-- An object that is used like a set. -/
structure SetLike where
  object : Value
  size : Float
  has : Value
  keys : Value

/-- A function that an object has to have to be used like a set. -/
def setLikeFunction [Machine] (object : Value) (name : String) : Eval Value := do
  let function ← getNamed object name
  if function.isUndefined then raiseType (.badSetLike ("." ++ name ++ " is undefined"))
  else if ← isCallable function then return function
  else raiseType (.badSetLike ("." ++ name ++ " is not a function"))

/-- A value as an object that is used like a set. -/
def SetLike.of [Machine] (value : Value) : Eval SetLike := do
  let _ ← requireObject value
  let size ← getNamed value "size"
  if size.isUndefined then raiseType (.badSetLike ".size is undefined")
  else
    let size ← toNumber size
    if size.isNaN then raiseType (.badSetLike ".size is not a number")
    else
      let has ← setLikeFunction value "has"
      let keys ← setLikeFunction value "keys"
      return { object := value, size, has, keys }

/-- Whether an object that is used like a set has a member. -/
def SetLike.contains [Machine] (set : SetLike) (value : Value) : Eval Bool := do
  return (← Machine.call set.has set.object #[value]).truth

/-- A walk through the members of an object that is used like a set. -/
def SetLike.walk [Machine] (set : SetLike) : Eval Walk := do
  let iterator ← Machine.call set.keys set.object #[]
  if iterator.isObject then Walk.of iterator else raiseType .notObject

/-- The members of a set for which a test holds. -/
def keepMembers [Machine] (members : Array (Option Value)) (test : Value → Eval Bool) :
    Eval (Array (Option Value)) :=
  members.filterM fun member => match member with
    | some value => test value
    | none => return false

/-- Whether a test holds for every member of a set. -/
def allMembers [Machine] (members : Array (Option Value)) (test : Value → Eval Bool) :
    Eval Bool := do
  let failed ← searchIndices 0 members.size fun index => do
    match members[index]?.getD none with
    | some value => return if ← test value then none else some ()
    | none => return none
  return failed.isNone

/-- Carry out a method that compares or combines sets. -/
def combineSets [Machine] (method : SetMethod) (members : Array (Option Value))
    (other : SetLike) : Eval Value := do
  let size := countEntries members
  match method with
  | .isDisjointFrom =>
    return .boolean (← allMembers members fun value => do return !(← other.contains value))
  | .isSubsetOf =>
    if Float.ofNat size > other.size then return .boolean false
    else return .boolean (← allMembers members other.contains)
  | .isSupersetOf =>
    if Float.ofNat size < other.size then return .boolean false
    else
      let missing ← (← other.walk).search fun value =>
        return if (findMember members value).isSome then none else some ()
      return .boolean missing.isNone
  | .intersection =>
    if Float.ofNat size ≤ other.size then makeSet (← keepMembers members other.contains)
    else
      let found ← (← other.walk).fold (fun found value =>
        return if (findMember members value).isSome then withMember found value else found) #[]
      makeSet found
  | .difference =>
    makeSet (← keepMembers members fun value => do return !(← other.contains value))
  | .symmetricDifference =>
    let found ← (← other.walk).fold (fun found value =>
      return if (findMember members value).isSome then (withoutMember found value).2
        else withMember found value) members
    makeSet found
  | .union =>
    let found ← (← other.walk).fold (fun found value => return withMember found value) members
    makeSet found
  | _ => return .undefined

/-- An iterator over the members of a set. -/
def setIterator [Machine] (this : Value) (part : EntryPart) : Eval Value := do
  let (ref, _) ← setMembers this
  makeIterator .set (.members ref 0 part)

/-- Carry out a method of sets. -/
def runSetMethod [Machine] (method : SetMethod) (invocation : Invocation) : Eval Value := do
  let this := invocation.this
  let value := invocation.first
  match method with
  | .add =>
    let (ref, _) ← setMembers this
    charge (3 * Memory.slotSize)
    updateSet ref fun members => ((), withMember members value)
    return this
  | .has =>
    let (_, members) ← setMembers this
    return .boolean (findMember members value).isSome
  | .delete =>
    let (ref, _) ← setMembers this
    return .boolean (← updateSet ref fun members => withoutMember members value)
  | .clear =>
    let (ref, _) ← setMembers this
    updateSet ref fun members => ((), members.map fun _ => none)
    return .undefined
  | .forEach =>
    visitSet this value invocation.second
    return .undefined
  | .values => setIterator this .value
  | .entries => setIterator this .both
  | _ =>
    let (_, members) ← setMembers this
    combineSets method members (← SetLike.of value)

/-- The number of members of a set. -/
def setSize [Machine] (this : Value) : Eval Value := do
  let (_, members) ← setMembers this
  return .ofNat (countEntries members)

/-! ## Weak collections -/

/-- Whether a value can be a key of a weak collection. -/
def isWeakKey (memory : Memory) : Value → Bool
  | .object _ => true
  | .symbol symbol => !memory.shared.any (·.2 == symbol)
  | _ => false

/-- Check that a value can be a key of a weak collection. -/
def requireWeakKey [Machine] (value : Value) (what : String) : Eval Unit := do
  if ← Eval.view (isWeakKey · value) then return () else raiseType (.badKey what)

/-- The entries of a weak map. -/
def weakEntries [Machine] (value : Value) : Eval (Ref × Array (Value × Value)) := do
  match value with
  | .object ref =>
    match (← Eval.view (·.object ref)).nature with
    | .weakMap entries => return (ref, entries)
    | _ => raiseType (.wrongReceiver "WeakMap")
  | _ => raiseType (.wrongReceiver "WeakMap")

/-- The members of a weak set. -/
def weakMembers [Machine] (value : Value) : Eval (Ref × Array Value) := do
  match value with
  | .object ref =>
    match (← Eval.view (·.object ref)).nature with
    | .weakSet members => return (ref, members)
    | _ => raiseType (.wrongReceiver "WeakSet")
  | _ => raiseType (.wrongReceiver "WeakSet")

/-- Give an object another nature. -/
def setNature [Machine] (ref : Ref) (nature : Nature) : Eval Unit :=
  updateObject ref fun object => { object with nature }

/-- Make a weak map or a weak set. -/
def constructWeak [Machine] (of : StandardClass) (invocation : Invocation) : Eval Value := do
  requireNew invocation
  let isMap := of = .weakMap
  let made ← makeFor invocation of (if isMap then .weakMap #[] else .weakSet #[])
  if !invocation.first.isMissing then
    let adder ← getNamed (.object made) (if isMap then "set" else "add")
    requireCallable adder
    let walk ← Walk.start invocation.first
    walk.forEach fun entry => do
      if isMap then
        let ref ← requireObject entry
        let key ← getIndex ref 0
        let value ← getIndex ref 1
        let _ ← Machine.call adder (.object made) #[key, value]
      else
        let _ ← Machine.call adder (.object made) #[entry]
  return .object made

/-- Make a weak reference. -/
def constructWeakRef [Machine] (invocation : Invocation) : Eval Value := do
  requireNew invocation
  requireWeakKey invocation.first "as WeakRef target"
  return .object (← makeFor invocation .weakRef (.weakRef invocation.first))

/-- Carry out a method of weak collections. -/
def runWeakMethod [Machine] (method : WeakMethod) (invocation : Invocation) : Eval Value := do
  let this := invocation.this
  let key := invocation.first
  match method with
  | .mapSet =>
    let (ref, entries) ← weakEntries this
    requireWeakKey key "as WeakMap key"
    setNature ref (.weakMap ((entries.filter (!·.1.strictEq key)).push (key, invocation.second)))
    return this
  | .mapGet =>
    let (_, entries) ← weakEntries this
    return ((entries.find? (·.1.strictEq key)).map (·.2)).getD .undefined
  | .mapHas =>
    let (_, entries) ← weakEntries this
    return .boolean (entries.any (·.1.strictEq key))
  | .mapDelete =>
    let (ref, entries) ← weakEntries this
    setNature ref (.weakMap (entries.filter (!·.1.strictEq key)))
    return .boolean (entries.any (·.1.strictEq key))
  | .setAdd =>
    let (ref, members) ← weakMembers this
    requireWeakKey key "in WeakSet"
    if !members.any (·.strictEq key) then setNature ref (.weakSet (members.push key))
    return this
  | .setHas =>
    let (_, members) ← weakMembers this
    return .boolean (members.any (·.strictEq key))
  | .setDelete =>
    let (ref, members) ← weakMembers this
    setNature ref (.weakSet (members.filter (!·.strictEq key)))
    return .boolean (members.any (·.strictEq key))
  | .deref =>
    match this with
    | .object ref =>
      match (← Eval.view (·.object ref)).nature with
      | .weakRef target => return target
      | _ => raiseType (.wrongReceiver "WeakRef")
    | _ => raiseType (.wrongReceiver "WeakRef")

end Scratchpad.Script
