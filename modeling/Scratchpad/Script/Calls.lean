import Scratchpad.Script.Iteration
import Scratchpad.Script.Names

/-!
# Functions at run time

Making functions from what was read, calling them, and making objects with them. A call binds the
parameters, the variables and the functions of the body in an environment of its own, and runs the
statements there.
-/
namespace Scratchpad.Script

open Scratchpad.Text (Units)

/-! ## Making functions -/

/-- The prototype of a function of a kind. -/
def prototypeOfFunction (function : Function) : Ref :=
  if function.asynchronous then Intrinsic.asyncFunction.ref
  else (Intrinsic.prototype .function).ref

/-- Whether a function gets an object for what it will make. -/
def hasPrototype (function : Function) : Bool :=
  function.kind = .ordinary && !function.asynchronous

/-- The own properties that every function has. -/
def functionProperties (length : Nat) (name : Units) : Array (Key × Slot) :=
  #[(.length, .fixed (.ofNat length)), (.name, .fixed (.text name))]

/-- Make a function with a name. -/
def makeFunctionNamed [Machine] (context : Context) (place : Nat) (home : Option Ref)
    (name : Units) : Eval Ref := do
  let function ← Eval.view (·.function place)
  capture
  let closure : Closure :=
    { function := place, environment := context.environment, activation := context.activation,
      home, fields := #[] }
  let ref ← allocate
    { prototype := some (prototypeOfFunction function)
      properties := functionProperties function.length name
      nature := .closure closure }
  if hasPrototype function then
    let made ← allocate { prototype := some (Intrinsic.prototype .object).ref
                          properties := #[(.constructor, .quiet (.object ref))] }
    updateObject ref (·.put .prototype (.data (.object made) true false false))
  return ref

/-- Make a function by its own name. -/
def makeFunction [Machine] (context : Context) (place : Nat) : Eval Value := do
  let function ← Eval.view (·.function place)
  return .object (← makeFunctionNamed context place none function.name)

/-- The name of a function under a key: a symbol is shown by its description. -/
def functionName (memory : Memory) (mark : String) (key : Key) : Units :=
  let name := match key with
    | .text name => name
    | .symbol ref =>
      match memory.description ref with
      | some description => Units.ofString "[" ++ description ++ Units.ofString "]"
      | none => .empty
    | .hidden _ => .empty
  Units.ofString mark ++ name

/-- Make the functions that a block declares. -/
def bindFunctions [Machine] (context : Context) : List (Units × Nat) → Eval Unit
  | [] => return ()
  | (name, place) :: rest => do
    let function ← makeFunction context place
    initiateName context.environment name function
    bindFunctions context rest

/-- The context of a block that declares names, with its functions made. -/
def enterScope [Machine] (context : Context) (scope : Scope) : Eval Context := do
  if scope.isEmpty then return { context with labels := [] }
  else
    let environment ← enter
      { parent := some context.environment, bindings := lexicalBindings scope.lexicals }
    let inner := { context with environment, labels := [] }
    bindFunctions inner scope.functions
    return inner

/-- Run statements until one of them ends in another way than at its end. -/
def runStatements [Machine] (context : Context) : List Stmt → Eval Flow
  | [] => return .normal
  | [last] => Machine.statement context last
  | first :: rest => do
    match ← Machine.statement context first with
    | .normal => runStatements context rest
    | flow => return flow

/-! ## Parameters -/

/-- Bindings with one more name; a name that is bound already gets the new value. -/
def bindParameter (bindings : Array Binding) (name : Units) (value : Value) : Array Binding :=
  match bindings.findIdx? (·.name == name) with
  | some position => bindings.modify position fun binding => { binding with value }
  | none => bindings.push { name, value, state := .mutable }

/-- The bindings of plain parameters from an argument on. -/
def bindPlain (arguments : Array Value) : Nat → List Units → Array Binding → Array Binding
  | _, [], bindings => bindings
  | index, name :: rest, bindings =>
    bindPlain arguments (index + 1) rest
      (bindParameter bindings name (arguments[index]?.getD .undefined))

/-- The bindings of parameters that are given their values later. -/
def bindLater (names : List Units) : Array Binding :=
  (names.map fun name =>
    { name, value := .undefined, state := .uninitialized : Binding }).toArray

/-- The bindings with a name, unless it is bound already. -/
def bindNew (bindings : Array Binding) (binding : Binding) : Array Binding :=
  if bindings.any (·.name == binding.name) then bindings else bindings.push binding

/-- The bindings with those of variables that are not bound already. -/
def bindVariables (names : List Units) (bindings : Array Binding) : Array Binding :=
  names.foldl (fun bindings name =>
    bindNew bindings { name, value := .undefined, state := .mutable }) bindings

/-- Give parameters that are not all plain their values, from an argument on. -/
def assignParameters [Machine] (context : Context) (arguments : Array Value) :
    Nat → List Expr → Eval Unit
  | _, [] => return ()
  | index, parameter :: rest => do
    match parameter with
    | .spread inner =>
      let left ← makeArray (arguments.extract index arguments.size)
      Machine.assign context true inner left
    | _ =>
      Machine.assign context true parameter (arguments[index]?.getD .undefined)
      assignParameters context arguments (index + 1) rest

/-- The object by which a function looks at its arguments. -/
def makeArguments [Machine] (function : Ref) (strict : Bool) (arguments : Array Value) :
    Eval Value := do
  let elements := arguments.mapIdx fun index value => (Key.ofNat index, Slot.plain value)
  let values ← Eval.view (·.valueOf (Intrinsic.prototype .array).ref (.ofString "values"))
  let thrower ← if strict then
      some <$> allocate { prototype := some (Intrinsic.prototype .function).ref
                          nature := .native .thrower }
    else pure none
  let callee : Slot := match thrower with
    | some thrower => .accessor (some thrower) (some thrower) false false
    | none => .quiet (.object function)
  return .object (← allocate
    { prototype := some (Intrinsic.prototype .object).ref
      properties := elements.push (.length, .quiet (.ofNat arguments.size))
        |>.push (WellKnown.iterator.key, .quiet values) |>.push (.ofString "callee", callee)
      nature := .arguments })

/-! ## Calls -/

/-- The value of `this` that a function sees. -/
def receiverFor [Machine] (strict : Bool) (this : Value) : Eval Value := do
  if strict then return this
  else
    match this with
    | .object _ => return this
    | .undefined | .null => return .object Intrinsic.global.ref
    | _ => return .object (← toObject this)

/-- Whether a function has a `this` of its own. -/
def hasActivation (function : Function) : Bool := function.kind ≠ .arrow

/-- Whether the arguments of a function are to be seen as an object. -/
def bindsArguments (function : Function) : Bool :=
  function.usesArguments && function.kind ≠ .arrow && function.kind ≠ .initializer &&
    !function.parameterNames.contains "arguments"

/-- The bindings of a function at the beginning of a call, those of its parameters included. -/
def callBindings (function : Function) (ref : Ref) (arguments : Array Value)
    (asObject : Option Value) : Array Binding :=
  let bindings := if function.simple then bindPlain arguments 0 function.parameterNames #[]
    else bindLater function.parameterNames
  let bindings := match asObject with
    | some value => bindNew bindings { name := "arguments", value, state := .mutable }
    | none => bindings
  let bindings := bindVariables function.varNames bindings
  let bindings := bindings ++ lexicalBindings function.scope.lexicals
  match function.selfName with
  | some name => bindNew bindings { name, value := .object ref, state := .silent }
  | none => bindings

/-- Enter the environment of a call: the context of the body. -/
def enterCall [Machine] (function : Function) (ref : Ref) (closure : Closure) (this : Option Value)
    (arguments : Array Value) (newTarget : Option Ref) : Eval Context := do
  let asObject ← if bindsArguments function then
      some <$> makeArguments ref (function.strict || !function.simple) arguments
    else pure none
  let activation : Option Activation := if hasActivation function then
      some { this, function := some ref, newTarget, home := closure.home }
    else none
  let environment ← enter
    { parent := some closure.environment
      bindings := callBindings function ref arguments asObject
      activation
      holdsVariables := true }
  return {
    environment
    activation := if hasActivation function then environment else closure.activation
    strict := function.strict }

/-- Give the parameters their values, make the functions of the body and run it. -/
def runBody [Machine] (context : Context) (function : Function) (arguments : Array Value) :
    Eval Flow := do
  if !function.simple then assignParameters context arguments 0 function.parameters
  bindFunctions context function.scope.functions
  runStatements context function.body

/-- What a call yields. -/
def Flow.result : Flow → Value
  | .return value => value
  | _ => .undefined

/-- A promise. -/
def makePromise [Machine] : Eval Value := do
  return .object (← allocate
    { prototype := some (Intrinsic.prototype .promise).ref, nature := .promise })

/-- Run a body that returns a promise: it runs up to the first value that it waits for, and nothing
can be seen of what it returned or threw. -/
def runAsynchronous [Machine] (body : Eval Flow) : Eval Value := do
  match ← Eval.attempt body with
  | .error .interrupted => Eval.stop .interrupted
  | _ => makePromise

/-- Call a function that was made from what was read. -/
def callClosure [Machine] (ref : Ref) (closure : Closure) (this : Value)
    (arguments : Array Value) : Eval Value := do
  let function ← Eval.view (·.function closure.function)
  if function.generator then raiseType .generatorCall
  if function.kind.isConstructor then raiseType .classWithoutNew
  let mark ← mark
  let this ← if hasActivation function then some <$> receiverFor function.strict this
    else pure none
  let context ← enterCall function ref closure this arguments none
  let body := runBody context function arguments
  let value ← if function.asynchronous then runAsynchronous body else Flow.result <$> body
  leave mark
  return value

/-! ## Making objects -/

/-- The prototype of what a constructor makes, or that of a class if it gives none. -/
def prototypeFor [Machine] (newTarget : Ref) (fallback : Ref) : Eval Ref := do
  match ← getOf newTarget .prototype with
  | .object prototype => return prototype
  | _ => return fallback

/-- Add a private member to an object that has none of its name. -/
def addHidden [Machine] (ref : Ref) (key : Key) (slot : Slot) : Eval Unit := do
  if (← own? ref key).isSome then raiseType (.hiddenExists (← Eval.view (shownKey · key)))
  else updateObject ref (·.put key slot)

/-- Add to a new object what its constructor prescribes, from a field on. -/
def addFields [Machine] (ref : Ref) : List (Key × (Option Ref ⊕ Slot)) → Eval Unit
  | [] => return ()
  | (key, content) :: rest => do
    match content with
    | .inl value =>
      let value ← match value with
        | some function => Machine.call (.object function) (.object ref) #[]
        | none => pure .undefined
      match key with
      | .hidden _ => addHidden ref key (.data value true false false)
      | _ => createOrThrow ref key value
    | .inr slot => addHidden ref key slot
    addFields ref rest

/-- Add to a new object what a constructor prescribes. -/
def addFieldsOf [Machine] (constructor : Ref) (ref : Ref) : Eval Unit := do
  match (← Eval.view (·.object constructor)).nature with
  | .closure closure => addFields ref closure.fields.toList
  | _ => return ()

/-- Make an object by a function that makes the object itself. -/
def constructBase [Machine] (ref : Ref) (closure : Closure) (function : Function)
    (arguments : Array Value) (newTarget : Ref) : Eval Value := do
  let prototype ← prototypeFor newTarget (Intrinsic.prototype .object).ref
  let made ← allocate { prototype := some prototype }
  addFieldsOf ref made
  let mark ← mark
  let context ← enterCall function ref closure (some (.object made)) arguments (some newTarget)
  let value := (← runBody context function arguments).result
  leave mark
  return if value.isObject then value else .object made

/-- Make an object by a function that leaves it to the constructor of a parent. -/
def constructDerived [Machine] (ref : Ref) (closure : Closure) (function : Function)
    (arguments : Array Value) (newTarget : Ref) : Eval Value := do
  let mark ← mark
  let context ← enterCall function ref closure none arguments (some newTarget)
  let value := (← runBody context function arguments).result
  match value with
  | .object _ =>
    leave mark
    return value
  | .undefined =>
    let this ← thisValue context
    leave mark
    return this
  | _ => raiseType .badConstructorResult

/-- Make an object by a function that was made from what was read. -/
def constructClosure [Machine] (ref : Ref) (closure : Closure) (arguments : Array Value)
    (newTarget : Ref) : Eval Value := do
  let function ← Eval.view (·.function closure.function)
  if function.kind = .derivedConstructor then
    constructDerived ref closure function arguments newTarget
  else constructBase ref closure function arguments newTarget

/-- Call the constructor of the parent for the object that is being made. -/
def constructParent [Machine] (context : Context) (arguments : Array Value) : Eval Value := do
  let before ← activation context
  match before.function, before.newTarget with
  | some function, some newTarget =>
    let parent := Value.ofRef? (← prototypeOf function)
    match parent.ref?, ← isConstructor parent with
    | some parent, true =>
      let made ← Machine.construct parent arguments newTarget
      if (← activation context).this.isSome then raise (.reference .initializedTwice)
      else
        .update fun memory => memory.modifyEnvironment context.activation fun environment =>
          { environment with activation := some { before with this := some made } }
        match made with
        | .object ref => addFieldsOf function ref
        | _ => pure ()
        return made
    | _, _ => raiseType .notConstructor
  | _, _ => raiseType .notConstructor

end Scratchpad.Script
