import Scratchpad.Script.Assignment

/-!
# Iteration

Walking through the values of an iterable object. The built-in iterators over arrays, strings, maps
and sets are walked without making an object for each step.
-/
namespace Scratchpad.Script

open Scratchpad.Text (Units)

/-- Move a cursor. -/
def setCursor [Machine] (ref : Ref) (cursor : Cursor) : Eval Unit :=
  updateObject ref fun object =>
    match object with
    | { prototype, extensible, properties, nature := .iterator kind _ } =>
      { prototype, extensible, properties, nature := .iterator kind cursor }
    | object => object

/-- The next entry of a map or set from a position on that is not deleted, and its position. -/
def nextEntry? {α : Type} (entries : Array (Option α)) : Nat → Nat → Option (α × Nat)
  | 0, _ => none
  | fuel + 1, position =>
    match entries[position]? with
    | some (some entry) => some (entry, position)
    | some none => nextEntry? entries fuel (position + 1)
    | none => none

/-- A part of an entry as a value. -/
def entryPart [Machine] (part : EntryPart) (key value : Value) : Eval Value :=
  match part with
  | .key => return key
  | .value => return value
  | .both => makeArray #[key, value]

/-- What a cursor over a collection finds next and where it stands then; none at the end. -/
def advanceCursor [Machine] (cursor : Cursor) : Eval (Option (Value × Cursor)) := do
  match cursor with
  | .elements target index part =>
    match target with
    | .object ref =>
      let length ← lengthOfObject ref
      if index < length then
        let value ← match part with
          | .key => pure Value.undefined
          | _ => getIndex ref index
        return some (← entryPart part (.ofNat index) value, .elements target (index + 1) part)
      else return none
    | _ => return none
  | .characters text index =>
    if index < text.size then
      let (_, width) := text.codeAt index
      return some (.text (text.slice index (index + width)), .characters text (index + width))
    else return none
  | .entries target index part =>
    let found ← Eval.view fun memory =>
      match (memory.object target).nature with
      | .map entries => nextEntry? entries (entries.size + 1) index
      | _ => none
    match found with
    | some ((key, value), position) =>
      return some (← entryPart part key value, .entries target (position + 1) part)
    | none => return none
  | .members target index part =>
    let found ← Eval.view fun memory =>
      match (memory.object target).nature with
      | .set members => nextEntry? members (members.size + 1) index
      | _ => none
    match found with
    | some (value, position) =>
      return some (← entryPart part value value, .members target (position + 1) part)
    | none => return none
  | .wrapped .. | .helper .. | .finished => return none

/-- The next value of a built-in iterator over a collection; none at the end. -/
def stepCursor [Machine] (ref : Ref) (cursor : Cursor) : Eval (Option Value) := do
  match ← advanceCursor cursor with
  | some (value, cursor) =>
    setCursor ref cursor
    return some value
  | none =>
    setCursor ref .finished
    return none

/-- Make a built-in iterator. -/
def makeIterator [Machine] (kind : IteratorKind) (cursor : Cursor) : Eval Value := do
  return .object (← allocate
    { prototype := some (Intrinsic.iterator kind).ref, nature := .iterator kind cursor })

/-- An iterator with its method for the next value. -/
structure Walk where
  iterator : Value
  next : Value
deriving Inhabited

/-- The walk of an iterator. -/
def Walk.of [Machine] (iterator : Value) : Eval Walk :=
  return { iterator, next := ← getNamed iterator "next" }

/-- Begin to walk through a value by a method that gives an iterator. -/
def Walk.startBy [Machine] (value method : Value) : Eval Walk := do
  let iterator ← Machine.call method value #[]
  if iterator.isObject then Walk.of iterator else raiseType .notObject

/-- Begin to walk through a value. -/
def Walk.start [Machine] (value : Value) : Eval Walk := do
  let method ← get value WellKnown.iterator.key
  if ← isCallable method then Walk.startBy value method else raiseType .notIterable

/-- The cursor of a walk by a built-in iterator over a collection. -/
def Walk.cursor? (memory : Memory) (walk : Walk) : Option (Ref × Cursor) :=
  match walk.iterator, walk.next with
  | .object ref, .object next =>
    match (memory.object next).nature, (memory.object ref).nature with
    | .native (.resume kind .next), .iterator other cursor =>
      let isCollection := match kind with
        | .array | .text | .map | .set => true
        | _ => false
      if isCollection && kind = other then some (ref, cursor) else none
    | _, _ => none
  | _, _ => none

/-- The next value of a walk; none at the end. -/
def Walk.step? [Machine] (walk : Walk) : Eval (Option Value) := do
  match ← Eval.view walk.cursor? with
  | some (ref, cursor) => stepCursor ref cursor
  | none =>
    let found ← Machine.call walk.next walk.iterator #[]
    if !found.isObject then raiseType .badIterator
    else if (← getNamed found "done").truth then return none
    else some <$> getNamed found "value"

/-- Tell an iterator that no more values are wanted. -/
def Walk.close [Machine] (walk : Walk) : Eval Unit := do
  match ← method? walk.iterator (.ofString "return") with
  | none => return ()
  | some method =>
    let found ← Machine.call method walk.iterator #[]
    if found.isObject then return () else raiseType .notObject

/-- Do a step and tell an iterator if it throws; what the iterator throws then does not count. -/
def Walk.guard [Machine] {α : Type} (walk : Walk) (step : Eval α) : Eval α := do
  match ← Eval.attempt step with
  | .ok value => return value
  | .error (.thrown value) =>
    let _ ← Eval.attempt walk.close
    Eval.throwValue value
  | .error abrupt => Eval.stop abrupt

/-- Walk on until a step finds something, or to the end. -/
def Walk.search [Machine] {α : Type} (walk : Walk) (step : Value → Eval (Option α)) :
    Eval (Option α) :=
  repeatUntil (fun _ => do
    match ← walk.step? with
    | none => return .inl none
    | some value =>
      match ← walk.guard (step value) with
      | none => return .inr ()
      | some found =>
        walk.close
        return .inl (some found)) ()

/-- Walk to the end with a state. -/
def Walk.fold [Machine] {σ : Type} (walk : Walk) (step : σ → Value → Eval σ) (state : σ) : Eval σ :=
  repeatUntil (fun state => do
    match ← walk.step? with
    | none => return .inl state
    | some value => return .inr (← walk.guard (step state value))) state

/-- Walk to the end. -/
def Walk.forEach [Machine] (walk : Walk) (step : Value → Eval Unit) : Eval Unit :=
  walk.fold (fun _ value => step value) ()

/-- The values that are left of a walk. -/
def Walk.rest [Machine] (walk : Walk) : Eval (Array Value) :=
  repeatUntil (fun (found : Array Value) => do
    match ← walk.step? with
    | none => return .inl found
    | some value => return .inr (found.push value)) #[]

/-- The values of an iterable object. -/
def valuesOf [Machine] (value : Value) : Eval (Array Value) := do
  (← Walk.start value).rest

/-- The values of an object with a length. -/
def elementsOf [Machine] (ref : Ref) : Eval (Array Value) := do
  match (← Eval.view (·.object ref)).dense? with
  | some items => return items
  | none =>
    let length ← lengthOfObject ref
    (Array.range length).mapM (getIndex ref)

/-- An object that an iterator yields. -/
def makeStep [Machine] (value : Value) (done : Bool) : Eval Value :=
  makeRecord [("value", value), ("done", .boolean done)]

end Scratchpad.Script
