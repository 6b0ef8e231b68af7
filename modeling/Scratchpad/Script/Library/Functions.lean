import Scratchpad.Script.Expressions
import Scratchpad.Script.Library.Arguments

/-!
# Functions as objects

Calling, binding and showing functions, and making them from texts.
-/
namespace Scratchpad.Script

open Scratchpad.Text (Units)

/-! ## Showing -/

/-- A function without a text of its own as it is shown. -/
def nativeText (name : Units) : Units :=
  Units.ofString "function " ++ name ++ Units.ofString "() \x7b\n    [native code]\n\x7d"

/-- A function as it is shown: by its text, if it was read from one. -/
def functionText [Machine] (value : Value) : Eval Value := do
  match value with
  | .object ref =>
    let object ← Eval.view (·.object ref)
    match object.nature with
    | .closure closure => return .text (← Eval.view (·.function closure.function)).source
    | _ =>
      if object.isCallable then
        let name ← match ← getOf ref .name with
          | .undefined => pure .empty
          | name => toText name
        return .text (nativeText name)
      else raiseType .notFunction
  | _ => raiseType .notFunction

/-! ## Binding -/

/-- The length of a function with the first arguments given. -/
def boundLength (length : Value) (given : Nat) : Value :=
  match length with
  | .number length =>
    let left := integral length - Float.ofNat given
    .number (if left > 0.0 then left else 0.0)
  | _ => .number 0.0

/-- A function with the value of `this` and the first arguments given. -/
def bindFunction [Machine] (invocation : Invocation) : Eval Value := do
  requireCallable invocation.this
  let target ← requireObject invocation.this
  let given := invocation.rest 1
  let length ← if (← own? target .length).isSome then getOf target .length else pure .undefined
  let name ← match ← getOf target .name with
    | .text name => pure name
    | _ => pure .empty
  return .object (← allocate
    { prototype := ← prototypeOf target
      properties := #[(.length, .fixed (boundLength length given.size)),
        (.name, .fixed (.text (Units.ofString "bound " ++ name)))]
      nature := .bound target invocation.first given })

/-- Carry out a method of functions. -/
def runFunctionMethod [Machine] (method : FunctionMethod) (invocation : Invocation) :
    Eval Value := do
  match method with
  | .call => Machine.call invocation.this invocation.first (invocation.rest 1)
  | .apply =>
    requireCallable invocation.this
    Machine.call invocation.this invocation.first (← listOfArrayLike invocation.second)
  | .bind => bindFunction invocation
  | .toString => functionText invocation.this
  | .hasInstance => return .boolean (← descendsFromPrototype invocation.first invocation.this)
  | .empty => return .undefined

/-! ## Functions from texts -/

/-- The parameters and the body in texts, the parameters with commas between them. -/
def parametersAndBody [Machine] : List Value → Units → Eval (Units × Units)
  | [], parameters => return (parameters, .empty)
  | [body], parameters => return (parameters, ← toText body)
  | parameter :: rest, parameters => do
    let text ← toText parameter
    let parameters := if parameters.isEmpty then text
      else parameters ++ Units.ofString "," ++ text
    parametersAndBody rest parameters

/-- The source of a function with parameters and a body. -/
def functionSource (heading parameters body : Units) : Units :=
  Units.ofString "(" ++ heading ++ Units.ofString " anonymous(" ++ parameters ++
    Units.ofString "\n) \x7b\n" ++ body ++ Units.ofString "\n\x7d)"

/-- The words in front of the name of a function, by what makes it. -/
def functionHeading (asynchronous generator : Bool) : Units :=
  Units.ofString ((if asynchronous then "async " else "") ++ "function" ++
    if generator then "*" else "")

/-- Make a function from texts. -/
def constructFunction [Machine] (invocation : Invocation) (asynchronous generator : Bool) :
    Eval Value := do
  let (parameters, body) ← parametersAndBody invocation.arguments.toList .empty
  evaluateGlobally (functionSource (functionHeading asynchronous generator) parameters body)

end Scratchpad.Script
