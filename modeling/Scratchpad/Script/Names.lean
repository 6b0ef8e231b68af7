import Scratchpad.Script.Assignment

/-!
# Names

Reading, assigning and declaring the names of a script. A name that is declared but not reached yet
cannot be used, a constant cannot be assigned, and a name that is bound nowhere is a property of the
global object once it is assigned in code that is not strict.
-/
namespace Scratchpad.Script

open Scratchpad.Text (Units)

/-- The place of a name. -/
def findName [Machine] (context : Context) (name : Units) : Eval (Option Memory.Place) :=
  .view fun memory => memory.find context.environment name

/-- A bound name of an environment. -/
def bindingAt [Machine] (environment : EnvironmentRef) (position : Nat) : Eval Binding :=
  .view fun memory => ((memory.environment environment).bindings[position]?).getD default

/-- The value of a bound name. -/
def readBinding [Machine] (environment : EnvironmentRef) (position : Nat) : Eval Value := do
  let binding ← bindingAt environment position
  match binding.state with
  | .uninitialized => raise (.reference (.notInitialized (shownName binding.name)))
  | _ => return binding.value

/-- Throw because a name is bound nowhere. -/
def raiseUndefined [Machine] {α : Type} (name : Units) : Eval α :=
  raise (.reference (.notDefined (shownName name)))

/-- The value of a name and the value of `this` for a call by it. -/
def readName [Machine] (context : Context) (name : Units) : Eval (Value × Value) := do
  match ← findName context name with
  | some (.binding environment position) => return (.undefined, ← readBinding environment position)
  | some (.property object isReceiver) =>
    let value ← getOf object (.text name)
    return (if isReceiver then .object object else .undefined, value)
  | none => raiseUndefined name

/-- The value of a name, undefined for one that is bound nowhere. -/
def readNameIfAny [Machine] (context : Context) (name : Units) : Eval Value := do
  match ← findName context name with
  | none => return .undefined
  | some _ => return (← readName context name).2

/-- Change a bound name. -/
def updateBinding [Machine] (environment : EnvironmentRef) (position : Nat)
    (change : Binding → Binding) : Eval Unit :=
  .update fun memory => memory.modifyEnvironment environment fun environment =>
    { environment with bindings := environment.bindings.modify position change }

/-- Assign a bound name. -/
def writeBinding [Machine] (strict : Bool) (environment : EnvironmentRef) (position : Nat)
    (value : Value) : Eval Unit := do
  let binding ← bindingAt environment position
  match binding.state with
  | .uninitialized => raise (.reference (.notInitialized (shownName binding.name)))
  | .constant => raiseType (.readOnly (shownName binding.name))
  | .silent => if strict then raiseType (.readOnly (shownName binding.name))
  | .mutable => updateBinding environment position fun binding => { binding with value }

/-- Assign the place of a name. -/
def writePlace [Machine] (context : Context) (name : Units) (value : Value) :
    Option Memory.Place → Eval Unit
  | some (.binding environment position) =>
    writeBinding context.strict environment position value
  | some (.property object _) => set (.object object) (.text name) value context.strict
  | none =>
    if context.strict then raiseUndefined name
    else set (.object Intrinsic.global.ref) (.text name) value false

/-- Assign a name. -/
def writeName [Machine] (context : Context) (name : Units) (value : Value) : Eval Unit := do
  writePlace context name value (← findName context name)

/-- Give a declared name its first value. -/
def initiateName [Machine] (environment : EnvironmentRef) (name : Units) (value : Value) :
    Eval Unit :=
  .update fun memory => memory.modifyEnvironment environment fun environment =>
    match environment.bindings.findIdx? (·.name == name) with
    | some position =>
      { environment with
        bindings := environment.bindings.modify position fun binding =>
          { binding with value, state := if binding.constant then .constant else .mutable } }
    | none =>
      { environment with bindings := environment.bindings.push { name, value, state := .mutable } }

/-- Delete a name: whether it is gone. -/
def deleteName [Machine] (context : Context) (name : Units) : Eval Bool := do
  match ← findName context name with
  | some (.binding ..) => return false
  | some (.property object _) => delete object (.text name)
  | none => return true

/-- The bindings of the lexical names of a block before it is run. -/
def lexicalBindings (names : List Lexical) : Array Binding :=
  (names.map fun lexical =>
    { name := lexical.name, value := .undefined, state := .uninitialized
      constant := lexical.constant : Binding }).toArray

/-- The nearest environment in which variables are declared, at most `fuel` environments away. -/
def variableEnvironmentFrom (memory : Memory) : Nat → EnvironmentRef → EnvironmentRef
  | 0, ref => ref
  | fuel + 1, ref =>
    let environment := memory.environment ref
    if environment.holdsVariables then ref
    else
      match environment.parent with
      | some parent => variableEnvironmentFrom memory fuel parent
      | none => ref

/-- The nearest environment in which variables are declared. -/
def variableEnvironment [Machine] (context : Context) : Eval EnvironmentRef :=
  .view fun memory =>
    variableEnvironmentFrom memory (context.environment.place + 1) context.environment

/-- Declare a variable in an environment, unless it is declared there already. -/
def declareVariable [Machine] (environment : EnvironmentRef) (name : Units) : Eval Unit := do
  let object ← Eval.view fun memory => (memory.environment environment).object
  match object with
  | some object =>
    if (← own? object (.text name)).isNone then
      demand (← create object (.text name) .undefined)
  | none =>
    .update fun memory => memory.modifyEnvironment environment fun environment =>
      if environment.bindings.any (·.name == name) then environment
      else { environment with
        bindings := environment.bindings.push { name, value := .undefined, state := .mutable } }

/-- Declare a function as a variable of an environment. -/
def declareFunction [Machine] (environment : EnvironmentRef) (name : Units) (value : Value) :
    Eval Unit := do
  let object ← Eval.view fun memory => (memory.environment environment).object
  match object with
  | some object => demand (← create object (.text name) value)
  | none => initiateName environment name value

/-! ## Activations -/

/-- What the nearest function with a `this` of its own was called with. -/
def activation [Machine] (context : Context) : Eval Activation :=
  .view fun memory => (memory.environment context.activation).activation.getD default

/-- The value of `this`. -/
def thisValue [Machine] (context : Context) : Eval Value := do
  match (← activation context).this with
  | some value => return value
  | none => raise (.reference (.notInitialized "this"))

end Scratchpad.Script
