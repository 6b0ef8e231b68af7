import Scratchpad.Script.Library.Arguments

/-!
# Iterators

The steps of the built-in iterators, and the methods that every iterator inherits: some go through
all values at once, others give a new iterator over what a function makes of them.
-/
namespace Scratchpad.Script

open Scratchpad.Text (Units)

/-- The iterator of a kind that a method is called on. -/
def thisCursor [Machine] (value : Value) (kind : IteratorKind) : Eval (Ref × Cursor) := do
  let shown := match kind with
    | .array => "Array Iterator"
    | .text => "String Iterator"
    | .map => "Map Iterator"
    | .set => "Set Iterator"
    | .helper => "Iterator Helper"
    | .wrapped => "Wrapped Iterator"
  match value with
  | .object ref =>
    match (← Eval.view (·.object ref)).nature with
    | .iterator other cursor =>
      if kind = other then return (ref, cursor) else raiseType (.wrongReceiver shown)
    | _ => raiseType (.wrongReceiver shown)
  | _ => raiseType (.wrongReceiver shown)

/-! ## Helpers -/

/-- The next value of an iterator inside a helper; none at its end. -/
def stepInner [Machine] (inner : Option (Value × Value)) : Eval (Option Value) := do
  match inner with
  | some (iterator, next) => ({ iterator, next } : Walk).step?
  | none => return none

/-- Skip values of a walk. -/
def skipValues [Machine] (walk : Walk) (count : Float) : Eval Unit :=
  repeatUntil (fun left => do
    if left > 0.0 then
      match ← walk.step? with
      | some _ => return .inr (left - 1.0)
      | none => return .inl ()
    else return .inl ()) count

/-- The iterator over what a function gave. -/
def innerWalk [Machine] (value : Value) : Eval Walk := do
  match value with
  | .object _ =>
    match ← method? value WellKnown.iterator.key with
    | some method => Walk.startBy value method
    | none => Walk.of value
  | _ => raiseType .notObject

/-- The next value of a helper and where it stands then; none at the end. -/
def advanceHelper [Machine] (ref : Ref) (kind : HelperKind) (walk : Walk) (function : Value)
    (count : Float) (inner : Option (Value × Value)) : Eval (Option Value) := do
  let stay (function : Value) (count : Float) (inner : Option (Value × Value)) : Eval Unit :=
    setCursor ref (.helper kind walk.iterator walk.next function count inner)
  let finish : Eval (Option Value) := do
    setCursor ref .finished
    return none
  match kind with
  | .take =>
    if count ≤ 0.0 then
      let _ ← finish
      walk.close
      return none
    else
      stay function (count - 1.0) none
      match ← walk.step? with
      | some value => return some value
      | none => finish
  | .drop =>
    skipValues walk count
    stay function 0.0 none
    match ← walk.step? with
    | some value => return some value
    | none => finish
  | .map =>
    match ← walk.step? with
    | none => finish
    | some value =>
      stay function (count + 1.0) none
      some <$> walk.guard (Machine.call function .undefined #[value, .number count])
  | .filter =>
    repeatUntil (fun count => do
      match ← walk.step? with
      | none => return .inl (← finish)
      | some value =>
        stay function (count + 1.0) none
        let found ← walk.guard (Machine.call function .undefined #[value, .number count])
        if found.truth then return .inl (some value) else return .inr (count + 1.0)) count
  | .flatMap =>
    repeatUntil (fun (count, inner) => do
      match ← walk.guard (stepInner inner) with
      | some value => return .inl (some value)
      | none =>
        match ← walk.step? with
        | none => return .inl (← finish)
        | some value =>
          let made ← walk.guard do
            innerWalk (← Machine.call function .undefined #[value, .number count])
          let inner := some (made.iterator, made.next)
          stay function (count + 1.0) inner
          return .inr (count + 1.0, inner)) (count, inner)

/-! ## Steps -/

/-- The next value of a built-in iterator, as an object. -/
def resumeNext [Machine] (invocation : Invocation) (kind : IteratorKind) : Eval Value := do
  let (ref, cursor) ← thisCursor invocation.this kind
  match cursor with
  | .wrapped iterator next => Machine.call next iterator #[]
  | .helper helper iterator next function count inner =>
    match ← advanceHelper ref helper { iterator, next } function count inner with
    | some value => makeStep value false
    | none => makeStep .undefined true
  | cursor =>
    match ← stepCursor ref cursor with
    | some value => makeStep value false
    | none => makeStep .undefined true

/-- End a built-in iterator. -/
def resumeReturn [Machine] (invocation : Invocation) (kind : IteratorKind) : Eval Value := do
  let (ref, cursor) ← thisCursor invocation.this kind
  match cursor with
  | .wrapped iterator _ =>
    match ← method? iterator (.ofString "return") with
    | some method => Machine.call method iterator #[]
    | none => makeStep .undefined true
  | .helper _ iterator next _ _ inner =>
    setCursor ref .finished
    match inner with
    | some (iterator, next) => ({ iterator, next } : Walk).close
    | none => pure ()
    ({ iterator, next } : Walk).close
    makeStep .undefined true
  | _ =>
    setCursor ref .finished
    makeStep .undefined true

/-- Resume a built-in iterator. -/
def resumeIterator [Machine] (invocation : Invocation) (kind : IteratorKind)
    (how : Resumption) : Eval Value :=
  match how with
  | .next => resumeNext invocation kind
  | .return => resumeReturn invocation kind
  | .throw => Eval.throwValue invocation.first

/-! ## Methods of every iterator -/

/-- The number of values that a helper takes or drops. -/
def toHelperCount [Machine] (value : Value) : Eval Float := do
  let count ← toNumber value
  if count.isNaN then raiseRange .badIndex
  else
    let count := integral count
    if count < 0.0 then raiseRange .badIndex else return count

/-- Make a helper over an iterator. -/
def makeHelper [Machine] (kind : HelperKind) (walk : Walk) (function : Value) (count : Float) :
    Eval Value :=
  makeIterator .helper (.helper kind walk.iterator walk.next function count none)

/-- Fold the values of a walk, beginning with the first one if there is no other value. -/
def reduceValues [Machine] (invocation : Invocation) (walk : Walk) : Eval Value := do
  let function := invocation.first
  let (initial, count) ← if invocation.arguments.size > 1 then pure (invocation.second, 0)
    else
      match ← walk.step? with
      | some value => pure (value, 1)
      | none => raiseType .emptyArray
  let (found, _) ← walk.fold (fun (found, index) value => do
    return (← Machine.call function .undefined #[found, value, .ofNat index], index + 1))
    (initial, count)
  return found

/-- Search the values of a walk by a function that gets their numbers too. -/
def searchValues [Machine] {α : Type} (walk : Walk) (function : Value)
    (step : Value → Value → Option α) : Eval (Option α) :=
  repeatUntil (fun (index : Nat) => do
    match ← walk.step? with
    | none => return .inl none
    | some value =>
      let found ← walk.guard (Machine.call function .undefined #[value, .ofNat index])
      match step value found with
      | some found =>
        walk.close
        return .inl (some found)
      | none => return .inr (index + 1)) 0

/-- Carry out a method of every iterator. -/
def runIteratorMethod [Machine] (method : IteratorMethod) (invocation : Invocation) :
    Eval Value := do
  let this := invocation.this
  let first := invocation.first
  let _ ← requireObject this
  match method with
  | .take =>
    let count ← toHelperCount first
    makeHelper .take (← Walk.of this) .undefined count
  | .drop =>
    let count ← toHelperCount first
    makeHelper .drop (← Walk.of this) .undefined count
  | .toArray => makeArray (← (← Walk.of this).rest)
  | _ =>
    requireCallable first
    let walk ← Walk.of this
    match method with
    | .map => makeHelper .map walk first 0.0
    | .filter => makeHelper .filter walk first 0.0
    | .flatMap => makeHelper .flatMap walk first 0.0
    | .every =>
      let failed ← searchValues walk first fun _ found => if found.truth then none else some ()
      return .boolean failed.isNone
    | .some =>
      let found ← searchValues walk first fun _ found => if found.truth then some () else none
      return .boolean found.isSome
    | .find =>
      let found ← searchValues walk first fun value found =>
        if found.truth then some value else none
      return found.getD .undefined
    | .forEach =>
      let (_ : Option Unit) ← searchValues walk first fun _ _ => none
      return .undefined
    | .reduce => reduceValues invocation walk
    | _ => return .undefined

/-- Make an iterator of an iterable object or of one that is like an iterator. -/
def iteratorFrom [Machine] (value : Value) : Eval Value := do
  let walk ← match value with
    | .text _ => Walk.start value
    | _ => innerWalk value
  let isIterator ← Eval.view fun memory =>
    match walk.iterator with
    | .object ref =>
      memory.descendsFrom (Intrinsic.prototype .iterator).ref memory.objects.size ref
    | _ => false
  if isIterator then return walk.iterator
  else makeIterator .wrapped (.wrapped walk.iterator walk.next)

end Scratchpad.Script
