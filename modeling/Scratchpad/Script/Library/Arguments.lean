import Scratchpad.Script.Calls
import Scratchpad.Script.Patterns

/-!
# Arguments of native functions

What native functions ask of their arguments.
-/
namespace Scratchpad.Script

open Scratchpad.Text (Units)

/-- What a native function was called with. -/
structure Invocation where
  this : Value
  arguments : Array Value
  /-- The constructor that asked for a new object, if one did. -/
  newTarget : Option Ref := none

namespace Invocation

/-- An argument, undefined beyond the last. -/
def argument (invocation : Invocation) (index : Nat) : Value :=
  invocation.arguments[index]?.getD .undefined

/-- The first argument. -/
def first (invocation : Invocation) : Value := invocation.argument 0

/-- The second argument. -/
def second (invocation : Invocation) : Value := invocation.argument 1

/-- The arguments from one on. -/
def rest (invocation : Invocation) (start : Nat) : Array Value :=
  invocation.arguments.extract start invocation.arguments.size

end Invocation

/-- Check that a value can be called. -/
def requireCallable [Machine] (value : Value) : Eval Unit := do
  if ← isCallable value then return () else raiseType .notFunction

/-- The object that a value has to be. -/
def requireObject [Machine] (value : Value) : Eval Ref := do
  match value with
  | .object ref => return ref
  | _ => raiseType .notObject

/-- Do a step for every number from one up to another. -/
def forIndices [Machine] (start stop : Nat) (step : Nat → Eval Unit) : Eval Unit :=
  repeatUntil (fun index => do
    if index < stop then
      step index
      return .inr (index + 1)
    else return .inl ()) start

/-- The first thing that a step finds for the numbers from one up to another. -/
def searchIndices [Machine] {α : Type} (start stop : Nat) (step : Nat → Eval (Option α)) :
    Eval (Option α) :=
  repeatUntil (fun index => do
    if index < stop then
      match ← step index with
      | some found => return .inl (some found)
      | none => return .inr (index + 1)
    else return .inl none) start

/-- The first thing that a step finds for the numbers below one, in descending order. -/
def searchDown [Machine] {α : Type} (stop : Nat) (step : Nat → Eval (Option α)) : Eval (Option α) :=
  repeatUntil (fun (left : Nat) => do
    match left with
    | 0 => return .inl none
    | index + 1 =>
      match ← step index with
      | some found => return .inl (some found)
      | none => return .inr index) stop

/-- Whether an object has or inherits an element. -/
def hasIndex [Machine] (ref : Ref) (index : Nat) : Eval Bool := do
  let isElement ← Eval.view fun memory =>
    match (memory.object ref).nature with
    | .array items _ _ => decide (index < items.size)
    | _ => false
  if isElement then return true else has ref (indexKey index)

/-- The element of an object at an index, if there is one. -/
def element? [Machine] (ref : Ref) (index : Nat) : Eval (Option Value) := do
  if ← hasIndex ref index then some <$> getIndex ref index else return none

/-- Assign an element of an object. -/
def setIndex [Machine] (ref : Ref) (index : Nat) (value : Value) : Eval Unit :=
  setStrict ref (indexKey index) value

/-- Delete an element of an object. -/
def deleteIndex [Machine] (ref : Ref) (index : Nat) : Eval Unit := deleteStrict ref (indexKey index)

/-- Put an own element into an object. -/
def createIndex [Machine] (ref : Ref) (index : Nat) (value : Value) : Eval Unit :=
  createOrThrow ref (indexKey index) value

/-- Assign the length of an object. -/
def setLengthOf [Machine] (ref : Ref) (length : Nat) : Eval Unit :=
  setStrict ref .length (.ofNat length)

/-- The values of an object with a length, as arguments. -/
def listOfArrayLike [Machine] (value : Value) : Eval (Array Value) := do
  match value with
  | .undefined | .null => return #[]
  | .object ref => elementsOf ref
  | _ => raiseType .notObject

/-- A native constructor's new object, of the class that asked for it. -/
def makeFor [Machine] (invocation : Invocation) (of : StandardClass) (nature : Nature) :
    Eval Ref := do
  let fallback := (Intrinsic.prototype of).ref
  let prototype ← match invocation.newTarget with
    | some newTarget => prototypeFor newTarget fallback
    | none => pure fallback
  allocate { prototype := some prototype, nature }

/-- Check that a constructor was called as one. -/
def requireNew [Machine] (invocation : Invocation) : Eval Unit := do
  if invocation.newTarget.isSome then return () else raiseType .nativeWithoutNew

end Scratchpad.Script
