import Scratchpad.Script.Library.Objects
import Scratchpad.Script.Library.Sorting

/-!
# Arrays

Making arrays, and the methods of arrays. Most methods work on any object with a length: they read,
assign and delete its elements like a script would.
-/
namespace Scratchpad.Script

open Scratchpad.Text (Units)

/-! ## Making arrays -/

/-- Make an array of a length by its constructor. -/
def constructArray [Machine] (invocation : Invocation) : Eval Value := do
  let array ← makeFor invocation .array (.array #[] 0 false)
  match invocation.arguments with
  | #[.number length] =>
    match lengthOf? length with
    | some length => updateObject array fun object => (object.withLength length false).1
    | none => raiseRange .arrayLength
  | items =>
    charge (items.size * Memory.slotSize)
    updateObject array fun object => { object with nature := .array items items.size false }
  return .object array

/-- The constructor that a value is, unless it is that of arrays. -/
def otherConstructor? [Machine] (value : Value) : Eval (Option Ref) := do
  match value with
  | .object ref =>
    if ref == (Intrinsic.constructor .array).ref then return none
    else if ← isConstructor value then return some ref
    else return none
  | _ => return none

/-- Make an object for the elements of another one, by the constructor that the other one asks
for. -/
def makeLike [Machine] (source : Ref) (length : Nat) : Eval Ref := do
  let plain : Eval Ref := do
    if length > maxLength then raiseRange .arrayLength
    else
      allocate { prototype := some (Intrinsic.prototype .array).ref
                 nature := .array #[] length false }
  let isArray ← Eval.view fun memory => (memory.object source).isArray
  if !isArray then plain
  else
    let asked ← match ← getOf source .constructor with
      | .object constructor => getOf constructor WellKnown.species.key
      | value => pure value
    if asked.isMissing then plain
    else
      match ← otherConstructor? asked with
      | some constructor =>
        requireObject (← Machine.construct constructor #[.ofNat length] constructor)
      | none =>
        if asked.strictEq (.object (Intrinsic.constructor .array).ref) then plain
        else raiseType .notConstructor

/-- Make an object for elements by the constructor that a function is called on. -/
def makeBy [Machine] (this : Value) (length : Option Nat) : Eval Ref := do
  match ← otherConstructor? this with
  | some constructor =>
    let arguments := match length with
      | some length => #[Value.ofNat length]
      | none => #[]
    requireObject (← Machine.construct constructor arguments constructor)
  | none => allocate (.ofItems #[])

/-- A value that a function may change, with its index. -/
def mapped [Machine] (function this value : Value) (index : Nat) : Eval Value := do
  if function.isUndefined then return value
  else Machine.call function this #[value, .ofNat index]

/-- Make an array of the values of an iterable or array-like object. -/
def arrayFrom [Machine] (invocation : Invocation) : Eval Value := do
  let items := invocation.first
  let function := invocation.second
  let this := invocation.argument 2
  if !function.isUndefined then requireCallable function
  match ← method? items WellKnown.iterator.key with
  | some method =>
    let made ← makeBy invocation.this none
    let walk ← Walk.startBy items method
    let length ← walk.fold (fun index value => do
      createIndex made index (← mapped function this value index)
      return index + 1) 0
    setLengthOf made length
    return .object made
  | none =>
    let source ← toObject items
    let length ← lengthOfObject source
    let made ← makeBy invocation.this (some length)
    forIndices 0 length fun index => do
      let value ← getIndex source index
      createIndex made index (← mapped function this value index)
    setLengthOf made length
    return .object made

/-- Carry out a function of the constructor of arrays. -/
def runArrayFunction [Machine] (function : ArrayFunction) (invocation : Invocation) :
    Eval Value := do
  match function with
  | .isArray =>
    match invocation.first with
    | .object ref => return .boolean (← Eval.view fun memory => (memory.object ref).isArray)
    | _ => return .boolean false
  | .of =>
    let made ← makeBy invocation.this (some invocation.arguments.size)
    forIndices 0 invocation.arguments.size fun index =>
      createIndex made index (invocation.argument index)
    setLengthOf made invocation.arguments.size
    return .object made
  | .fromValues => arrayFrom invocation

/-! ## Callbacks -/

/-- An object with a length, and a function to be called for its elements. -/
structure Visit where
  ref : Ref
  length : Nat
  function : Value
  this : Value

/-- What a method that calls a function for each element works on. -/
def Visit.start [Machine] (invocation : Invocation) : Eval Visit := do
  let ref ← toObject invocation.this
  let length ← lengthOfObject ref
  requireCallable invocation.first
  return { ref, length, function := invocation.first, this := invocation.second }

/-- Call the function of a visit for an element. -/
def Visit.call [Machine] (visit : Visit) (value : Value) (index : Nat) : Eval Value :=
  Machine.call visit.function visit.this #[value, .ofNat index, .object visit.ref]

/-- The first thing that a step finds among the elements that there are. -/
def Visit.search [Machine] {α : Type} (visit : Visit)
    (step : Nat → Value → Eval (Option α)) : Eval (Option α) :=
  searchIndices 0 visit.length fun index => do
    match ← element? visit.ref index with
    | some value => step index value
    | none => return none

/-- Do a step for each element that there is. -/
def Visit.forEach [Machine] (visit : Visit) (step : Nat → Value → Eval Unit) : Eval Unit :=
  forIndices 0 visit.length fun index => do
    match ← element? visit.ref index with
    | some value => step index value
    | none => return ()

/-- The first element with its index, from the front or from the end, for which a function gives
something true. -/
def Visit.find [Machine] (visit : Visit) (fromEnd : Bool) : Eval (Option (Value × Nat)) := do
  let step (index : Nat) : Eval (Option (Value × Nat)) := do
    let value ← getIndex visit.ref index
    return if (← visit.call value index).truth then some (value, index) else none
  if fromEnd then searchDown visit.length step else searchIndices 0 visit.length step

/-- The elements for which a function gives something true. -/
def filterElements [Machine] (visit : Visit) : Eval Value := do
  let made ← makeLike visit.ref 0
  let kept ← repeatUntil (fun (index, kept) => do
    if index < visit.length then
      match ← element? visit.ref index with
      | some value =>
        if (← visit.call value index).truth then
          createIndex made kept value
          return .inr (index + 1, kept + 1)
        else return .inr (index + 1, kept)
      | none => return .inr (index + 1, kept)
    else return .inl kept) (0, 0)
  let _ := kept
  return .object made

/-- Fold the elements that there are, from the front or from the end. -/
def reduceElements [Machine] (invocation : Invocation) (fromEnd : Bool) : Eval Value := do
  let visit ← Visit.start invocation
  let place (step : Nat) : Nat := if fromEnd then visit.length - 1 - step else step
  let (start, initial) ← if invocation.arguments.size > 1 then pure (0, invocation.second)
    else
      match ← searchIndices 0 visit.length fun step => do
        return (← element? visit.ref (place step)).map fun value => (step + 1, value) with
      | some found => pure found
      | none => raiseType .emptyArray
  repeatUntil (fun (step, found) => do
    if step < visit.length then
      match ← element? visit.ref (place step) with
      | some value =>
        let found ← Machine.call visit.function .undefined
          #[found, value, .ofNat (place step), .object visit.ref]
        return .inr (step + 1, found)
      | none => return .inr (step + 1, found)
    else return .inl found) (start, initial)

/-- Carry out a method that calls a function for each element. -/
def runVisit [Machine] (method : ArrayMethod) (visit : Visit) : Eval Value := do
  match method with
  | .every =>
    let found ← visit.search fun index value => do
      return if (← visit.call value index).truth then none else some ()
    return .boolean found.isNone
  | .some =>
    let found ← visit.search fun index value => do
      return if (← visit.call value index).truth then some () else none
    return .boolean found.isSome
  | .forEach =>
    visit.forEach fun index value => do let _ ← visit.call value index
    return .undefined
  | .map =>
    let made ← makeLike visit.ref visit.length
    visit.forEach fun index value => do createIndex made index (← visit.call value index)
    return .object made
  | .filter => filterElements visit
  | .find => return ((← visit.find false).map (·.1)).getD .undefined
  | .findLast => return ((← visit.find true).map (·.1)).getD .undefined
  | .findIndex =>
    return match ← visit.find false with
      | some (_, index) => .ofNat index
      | none => .number (-1.0)
  | .findLastIndex =>
    return match ← visit.find true with
      | some (_, index) => .ofNat index
      | none => .number (-1.0)
  | _ => return .undefined

/-! ## Searching and joining -/

/-- The index from which a search begins. -/
def searchStart [Machine] (invocation : Invocation) (length : Nat) : Eval Nat :=
  toIndex invocation.second length 0

/-- The number of elements that a search from the end looks at. -/
def searchStop [Machine] (invocation : Invocation) (length : Nat) : Eval Nat := do
  if invocation.arguments.size > 1 then
    let index ← toIntegral invocation.second
    if index < 0.0 then
      let shifted := index + Float.ofNat length
      return if shifted < 0.0 then 0 else shifted.toUInt64.toNat + 1
    else return if index ≥ Float.ofNat length then length else index.toUInt64.toNat + 1
  else return length

/-- The strings of the elements of an object, from one on, with a separator between them. -/
def joinElements [Machine] (ref : Ref) (length : Nat) (separator : Units)
    (convert : Value → Eval Units) : Eval Units := do
  let (_, found) ← repeatUntil (fun (state : Nat × Array UInt16) => do
    let (index, found) := state
    if index < length then
      let value ← getIndex ref index
      let text ← if value.isMissing then pure .empty else convert value
      let found := if index = 0 then found else found ++ separator.codes
      if found.size + text.size > maxUnits then raiseRange .textLength
      else return .inr (index + 1, found ++ text.codes)
    else return .inl (index, found)) (0, #[])
  return ⟨found⟩

/-- The string of an object with a length. -/
def joinObject [Machine] (ref : Ref) (separator : Units) : Eval Value := do
  let length ← lengthOfObject ref
  makeText (← joinElements ref length separator toText)

/-- The string of an array, by its own method. -/
def arrayText [Machine] (this : Value) : Eval Value := do
  let ref ← toObject this
  let method ← getNamed (.object ref) "join"
  if ← isCallable method then Machine.call method (.object ref) #[]
  else describeClass (.object ref)

/-! ## Adding and removing -/

/-- Values behind the elements of a plain array: its new length, if it is one. -/
def pushPlain? [Machine] (ref : Ref) (values : Array Value) : Eval (Option Nat) :=
  changeObject ref fun object =>
    match object with
    | { prototype, extensible := true, properties, nature := .array items length false } =>
      if items.size = length && length + values.size ≤ maxLength then
        let items := items ++ values
        (some items.size, { prototype, extensible := true, properties,
                            nature := .array items items.size false })
      else (none, { prototype, extensible := true, properties,
                    nature := .array items length false })
    | object => (none, object)

/-- Put values behind the elements of an object. -/
def pushValues [Machine] (ref : Ref) (values : Array Value) : Eval Value := do
  charge (values.size * Memory.slotSize)
  match ← pushPlain? ref values with
  | some length => return .ofNat length
  | none =>
    let length ← lengthOfObject ref
    forIndices 0 values.size fun index =>
      setIndex ref (length + index) (values[index]?.getD .undefined)
    setLengthOf ref (length + values.size)
    return .ofNat (length + values.size)

/-- Move an element of an object, or delete the place where it would go if there is none. -/
def moveElement [Machine] (ref : Ref) (source target : Nat) : Eval Unit := do
  match ← element? ref source with
  | some value => setIndex ref target value
  | none => deleteIndex ref target

/-- The elements of a plain array replaced: whether it is one. -/
def replaceItems [Machine] {α : Type} (ref : Ref) (change : Array Value → α × Array Value) :
    Eval (Option α) :=
  changeObject ref fun object =>
    match object with
    | { prototype, extensible := true, properties, nature := .array items length false } =>
      if items.size = length then
        let (found, items) := change items
        (some found, { prototype, extensible := true, properties,
                       nature := .array items items.size false })
      else (none, { prototype, extensible := true, properties,
                    nature := .array items length false })
    | object => (none, object)

/-- Remove the last element of an object. -/
def popElement [Machine] (ref : Ref) : Eval Value := do
  match ← replaceItems ref fun items => (items.back?.getD .undefined, items.pop) with
  | some value => return value
  | none =>
    let length ← lengthOfObject ref
    if length = 0 then
      setLengthOf ref 0
      return .undefined
    else
      let value ← getIndex ref (length - 1)
      deleteIndex ref (length - 1)
      setLengthOf ref (length - 1)
      return value

/-- Remove the first element of an object. -/
def shiftElement [Machine] (ref : Ref) : Eval Value := do
  match ← replaceItems ref fun items =>
      (items[0]?.getD .undefined, items.extract 1 items.size) with
  | some value => return value
  | none =>
    let length ← lengthOfObject ref
    if length = 0 then
      setLengthOf ref 0
      return .undefined
    else
      let value ← getIndex ref 0
      forIndices 1 length fun index => moveElement ref index (index - 1)
      deleteIndex ref (length - 1)
      setLengthOf ref (length - 1)
      return value

/-- Put values in front of the elements of an object. -/
def unshiftValues [Machine] (ref : Ref) (values : Array Value) : Eval Value := do
  charge (values.size * Memory.slotSize)
  match ← replaceItems ref fun items => (items.size + values.size, values ++ items) with
  | some length => return .ofNat length
  | none =>
    let length ← lengthOfObject ref
    if values.size > 0 then
      forIndices 0 length fun step => do
        let index := length - 1 - step
        moveElement ref index (index + values.size)
      forIndices 0 values.size fun index =>
        setIndex ref index (values[index]?.getD .undefined)
    setLengthOf ref (length + values.size)
    return .ofNat (length + values.size)

/-- Reverse the elements of an object. -/
def reverseElements [Machine] (ref : Ref) : Eval Unit := do
  match ← replaceItems ref fun items => ((), items.reverse) with
  | some () => return ()
  | none =>
    let length ← lengthOfObject ref
    forIndices 0 (length / 2) fun lower => do
      let upper := length - 1 - lower
      let first ← element? ref lower
      let second ← element? ref upper
      match second with
      | some value => setIndex ref lower value
      | none => if first.isSome then deleteIndex ref lower
      match first with
      | some value => setIndex ref upper value
      | none => if second.isSome then deleteIndex ref upper

/-- The part of an array that a splice replaces: where it begins and how long it is. -/
def spliceRange [Machine] (invocation : Invocation) (length : Nat) : Eval (Nat × Nat) := do
  let start ← toIndex invocation.first length 0
  let count ← match invocation.arguments.size with
    | 0 => pure 0
    | 1 => pure (length - start)
    | _ =>
      let wanted ← toIntegral invocation.second
      pure (clampIndex (greaterOf wanted 0.0) (length - start))
  return (start, count)
where
  /-- The greater one of two numbers. -/
  greaterOf (first second : Float) : Float := if first > second then first else second

/-- Replace a part of an object by values: the elements that were there. -/
def spliceElements [Machine] (invocation : Invocation) : Eval Value := do
  let ref ← toObject invocation.this
  let length ← lengthOfObject ref
  let (start, count) ← spliceRange invocation length
  let values := invocation.rest 2
  let made ← makeLike ref count
  forIndices 0 count fun index => do
    match ← element? ref (start + index) with
    | some value => createIndex made index value
    | none => return ()
  setLengthOf made count
  charge (values.size * Memory.slotSize)
  match ← replaceItems ref fun items =>
      ((), items.extract 0 start ++ values ++ items.extract (start + count) items.size) with
  | some () => return .object made
  | none =>
    if values.size < count then
      forIndices (start + count) length fun index =>
        moveElement ref index (index - count + values.size)
      forIndices 0 (count - values.size) fun step => deleteIndex ref (length - 1 - step)
    else if values.size > count then
      forIndices 0 (length - start - count) fun step => do
        let index := length - 1 - step
        moveElement ref index (index - count + values.size)
    forIndices 0 values.size fun index =>
      setIndex ref (start + index) (values[index]?.getD .undefined)
    setLengthOf ref (length - count + values.size)
    return .object made

/-- A part of an object as an array. -/
def sliceElements [Machine] (invocation : Invocation) : Eval Value := do
  let ref ← toObject invocation.this
  let length ← lengthOfObject ref
  let start ← toIndex invocation.first length 0
  let stop ← toIndex invocation.second length length
  let made ← makeLike ref (stop - start)
  forIndices start stop fun index => do
    match ← element? ref index with
    | some value => createIndex made (index - start) value
    | none => return ()
  setLengthOf made (stop - start)
  return .object made

/-- Fill a part of an object with a value. -/
def fillElements [Machine] (invocation : Invocation) : Eval Value := do
  let ref ← toObject invocation.this
  let length ← lengthOfObject ref
  let start ← toIndex invocation.second length 0
  let stop ← toIndex (invocation.argument 2) length length
  forIndices start stop fun index => setIndex ref index invocation.first
  return .object ref

/-- Copy a part of an object onto another part. -/
def copyElements [Machine] (invocation : Invocation) : Eval Value := do
  let ref ← toObject invocation.this
  let length ← lengthOfObject ref
  let target ← toIndex invocation.first length 0
  let start ← toIndex invocation.second length 0
  let stop ← toIndex (invocation.argument 2) length length
  let count := min (stop - start) (length - target)
  forIndices 0 count fun step => do
    let offset := if start < target then count - 1 - step else step
    moveElement ref (start + offset) (target + offset)
  return .object ref

/-! ## Putting together -/

/-- Whether the elements of a value are put in its place when it is added to an array. -/
def isSpreadable [Machine] (value : Value) : Eval (Option Ref) := do
  match value with
  | .object ref =>
    match ← getOf ref WellKnown.isConcatSpreadable.key with
    | .undefined => return if ← Eval.view fun memory => (memory.object ref).isArray then some ref else none
    | flag => return if flag.truth then some ref else none
  | _ => return none

/-- Put values, or their elements, into an object from an index on: the index behind them. -/
def concatenateValues [Machine] (made : Ref) : List Value → Nat → Eval Nat
  | [], index => return index
  | value :: rest, index => do
    match ← isSpreadable value with
    | some ref =>
      let length ← lengthOfObject ref
      forIndices 0 length fun offset => do
        match ← element? ref offset with
        | some value => createIndex made (index + offset) value
        | none => return ()
      concatenateValues made rest (index + length)
    | none =>
      createIndex made index value
      concatenateValues made rest (index + 1)

/-- Put the elements of elements into an object, down to a depth and at most `fuel` levels: the
index behind them. -/
def flattenInto [Machine] (made : Ref) (convert : Value → Nat → Eval Value) :
    Nat → Ref → Float → Nat → Eval Nat
  | 0, _, _, _ => raiseRange .stackOverflow
  | fuel + 1, source, depth, start => do
    let length ← lengthOfObject source
    let (_, stop) ← repeatUntil (fun (state : Nat × Nat) => do
      let (index, target) := state
      if index < length then
        match ← element? source index with
        | none => return .inr (index + 1, target)
        | some value =>
          let value ← convert value index
          match value with
          | .object ref =>
            if depth > 0.0 && (← Eval.view fun memory => (memory.object ref).isArray) then
              let target ← flattenInto made (fun value _ => return value) fuel ref (depth - 1.0) target
              return .inr (index + 1, target)
            else
              createIndex made target value
              return .inr (index + 1, target + 1)
          | _ =>
            createIndex made target value
            return .inr (index + 1, target + 1)
      else return .inl (index, target)) (0, start)
    return stop

/-- The elements of an object, missing ones as undefined. -/
def allElements [Machine] (this : Value) : Eval (Array Value) := do
  let ref ← toObject this
  let length ← lengthOfObject ref
  if length > maxLength then raiseRange .arrayLength
  else elementsOf ref

/-- Sort the elements of an object in place. -/
def sortElements [Machine] (invocation : Invocation) : Eval Value := do
  if !invocation.first.isUndefined then requireCallable invocation.first
  let ref ← toObject invocation.this
  let length ← lengthOfObject ref
  let values ← repeatUntil (fun (state : Nat × Array Value) => do
    let (index, found) := state
    if index < length then
      match ← element? ref index with
      | some value => return .inr (index + 1, found.push value)
      | none => return .inr (index + 1, found)
    else return .inl found) (0, #[])
  let sorted ← sortValues invocation.first values
  forIndices 0 sorted.size fun index => setIndex ref index (sorted[index]?.getD .undefined)
  forIndices sorted.size length fun index => do
    if ← hasIndex ref index then deleteIndex ref index
  return .object ref

/-- An iterator over the elements of a value. -/
def elementIterator [Machine] (this : Value) (part : EntryPart) : Eval Value := do
  let ref ← toObject this
  makeIterator .array (.elements (.object ref) 0 part)

/-- Carry out a method of arrays that does not call a function for each element. -/
def runPlainMethod [Machine] (method : ArrayMethod) (invocation : Invocation) :
    Eval Value := do
  let first := invocation.first
  let ref ← toObject invocation.this
  match method with
  | .at =>
    let length ← lengthOfObject ref
    let index ← toIntegral first
    let index := if index < 0.0 then index + Float.ofNat length else index
    if index < 0.0 || index ≥ Float.ofNat length then return .undefined
    else getIndex ref index.toUInt64.toNat
  | .with =>
    let length ← lengthOfObject ref
    let index ← toIntegral first
    let index := if index < 0.0 then index + Float.ofNat length else index
    if index < 0.0 || index ≥ Float.ofNat length then raiseRange .arrayIndex
    else
      let values ← elementsOf ref
      makeArray (values.setIfInBounds index.toUInt64.toNat invocation.second)
  | .concat =>
    let made ← makeLike ref 0
    let length ← concatenateValues made (.object ref :: invocation.arguments.toList) 0
    setLengthOf made length
    return .object made
  | .indexOf =>
    let length ← lengthOfObject ref
    let start ← searchStart invocation length
    let found ← searchIndices start length fun index => do
      match ← element? ref index with
      | some value => return if value.strictEq first then some index else none
      | none => return none
    return match found with
      | some index => .ofNat index
      | none => .number (-1.0)
  | .lastIndexOf =>
    let length ← lengthOfObject ref
    let stop ← searchStop invocation length
    let found ← searchDown stop fun index => do
      match ← element? ref index with
      | some value => return if value.strictEq first then some index else none
      | none => return none
    return match found with
      | some index => .ofNat index
      | none => .number (-1.0)
  | .includes =>
    let length ← lengthOfObject ref
    let start ← searchStart invocation length
    let found ← searchIndices start length fun index => do
      return if (← getIndex ref index).sameZero first then some () else none
    return .boolean found.isSome
  | .join =>
    let separator ← if first.isUndefined then pure (Units.ofString ",") else toText first
    joinObject ref separator
  | .toLocaleString =>
    let length ← lengthOfObject ref
    makeText (← joinElements ref length (Units.ofString ",") fun value => do
      toText (← invoke value (.ofString "toLocaleString") #[]))
  | .pop => popElement ref
  | .push => pushValues ref invocation.arguments
  | .shift => shiftElement ref
  | .unshift => unshiftValues ref invocation.arguments
  | .reverse =>
    reverseElements ref
    return .object ref
  | .toReversed => makeArray (← allElements (.object ref)).reverse
  | .toSorted =>
    if !first.isUndefined then requireCallable first
    makeArray (← sortValues first (← allElements (.object ref)))
  | .toSpliced =>
    let values ← allElements (.object ref)
    let (start, count) ← spliceRange invocation values.size
    makeArray (values.extract 0 start ++ invocation.rest 2 ++
      values.extract (start + count) values.size)
  | .flatMap =>
    requireCallable first
    let made ← makeLike ref 0
    let _ ← flattenInto made (fun value index =>
      Machine.call first invocation.second #[value, .ofNat index, .object ref])
      (Machine.depth + 1) ref 1.0 0
    return .object made
  | .flat =>
    let depth ← if first.isUndefined then pure 1.0 else toIntegral first
    let made ← makeLike ref 0
    let _ ← flattenInto made (fun value _ => return value) (Machine.depth + 1) ref depth 0
    return .object made
  | _ => return .undefined

/-- Carry out a method of arrays. -/
def runArrayMethod [Machine] (method : ArrayMethod) (invocation : Invocation) : Eval Value := do
  match method with
  | .every | .some | .forEach | .map | .filter | .find | .findIndex | .findLast | .findLastIndex =>
    runVisit method (← Visit.start invocation)
  | .reduce => reduceElements invocation false
  | .reduceRight => reduceElements invocation true
  | .fill => fillElements invocation
  | .sort => sortElements invocation
  | .slice => sliceElements invocation
  | .splice => spliceElements invocation
  | .copyWithin => copyElements invocation
  | .toString => arrayText invocation.this
  | .values => elementIterator invocation.this .value
  | .keys => elementIterator invocation.this .key
  | .entries => elementIterator invocation.this .both
  | _ => runPlainMethod method invocation

end Scratchpad.Script
