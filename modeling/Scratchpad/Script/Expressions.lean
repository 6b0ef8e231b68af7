import Scratchpad.Script.Operator
import Scratchpad.Script.Parser.Programs
import Scratchpad.Script.Patterns

/-!
# Expressions at run time

The value of every form of an expression. The parts of an expression are evaluated from left to
right by the machine.
-/
namespace Scratchpad.Script

open Scratchpad.Text (Units)

/-- The value of a part of an expression. -/
@[inline]
def part [Machine] (context : Context) (inner : Expr) : Eval Value := do
  match inner with
  | .number value => return .number value
  | .text value => return .text value
  | .name name => return (← readName context name).2
  | _ => Machine.expression context inner

/-! ## Lists -/

/-- The values of arguments, behind those found before. -/
def argumentValues [Machine] (context : Context) :
    List Expr → Array Value → Eval (Array Value)
  | [], found => return found
  | .spread inner :: rest, found => do
    argumentValues context rest (found ++ (← valuesOf (← part context inner)))
  | item :: rest, found => do
    argumentValues context rest (found.push (← part context item))

/-- Put the items of an array literal into an array, from an index on. -/
def fillArray [Machine] (context : Context) (array : Ref) : Nat → List Expr → Eval Unit
  | index, [] => updateObject array fun object => (object.withLength index false).1
  | index, .hole :: rest => fillArray context array (index + 1) rest
  | index, .spread inner :: rest => do
    let values ← valuesOf (← part context inner)
    for offset in [0 : values.size] do
      let value := values[offset]?.getD .undefined
      updateObject array (·.put (.ofNat (index + offset)) (.plain value))
    fillArray context array (index + values.size) rest
  | index, item :: rest => do
    let value ← part context item
    updateObject array (·.put (.ofNat index) (.plain value))
    fillArray context array (index + 1) rest

/-- Whether an item of a list is left out. -/
def Expr.isHole : Expr → Bool
  | .hole => true
  | _ => false

/-- The array of an array literal. -/
def arrayValue [Machine] (context : Context) (items : List Expr) : Eval Value := do
  if items.any Expr.isHole then
    let array ← makeArray #[]
    match array with
    | .object ref => fillArray context ref 0 items
    | _ => pure ()
    return array
  else makeArray (← argumentValues context items #[])

/-! ## Templates -/

/-- The text of a template, behind what was put together before. -/
def templateText [Machine] (context : Context) : List Units → List Expr → Units → Eval Units
  | text :: texts, inner :: parts, found => do
    let next ← toText (← part context inner)
    templateText context texts parts (found ++ text ++ next)
  | text :: _, [], found => return found ++ text
  | [], _, found => return found

/-- The object that a tag gets of the texts of a template. -/
def templateObject [Machine] (cooked : List (Option Units)) (raw : List Units) : Eval Value := do
  let raws ← allocate (Object.ofItems (raw.map Value.text).toArray)
  let values := cooked.map fun text => match text with
    | some text => Value.text text
    | none => .undefined
  let texts ← allocate (Object.ofItems values.toArray)
  updateObject raws (·.restrict true)
  updateObject texts fun object => (object.put (.ofString "raw") (.constant (.object raws))).restrict true
  return .object texts

/-! ## Object literals -/

/-- The value of a member, with the name that its key lends to a function without one. -/
def memberValue [Machine] (context : Context) (name value : Expr) (key : Key) : Eval Value := do
  match name, value with
  | .text _, _ => part context value
  | _, .function place =>
    let function ← Eval.view (·.function place)
    if function.name.isEmpty && function.selfName.isNone then
      return .object (← makeFunctionNamed context place none (← memberFunctionName "" key))
    else part context value
  | _, _ => part context value

/-- Put the members of an object literal into an object. -/
def fillObject [Machine] (context : Context) (target : Ref) : List Member → Eval Unit
  | [] => return ()
  | .mk kind name value :: rest => do
    match kind with
    | .spread => copyProperties (← part context value) target []
    | .prototype =>
      match ← part context value with
      | .object prototype => let _ ← setPrototype target (some prototype)
      | .null => let _ ← setPrototype target none
      | _ => pure ()
    | .value =>
      let key ← memberKey context name
      let value ← memberValue context name value key
      updateObject target (·.put key (.plain value))
      charge (2 * Memory.slotSize)
    | kind =>
      let key ← memberKey context name
      match value with
      | .function place => putMethod context target kind key place true
      | _ => pure ()
    fillObject context target rest

/-! ## Scripts inside scripts -/

/-- Declare the variables and functions of a program. -/
def declareProgram [Machine] (context : Context) (surroundings : EnvironmentRef)
    (program : Program) : Eval Unit := do
  for name in program.varNames do declareVariable surroundings name
  for (name, place) in program.scope.functions do
    declareFunction surroundings name (← makeFunction context place)

/-- Run a program for its value. -/
def runProgram [Machine] (context : Context) (program : Program) : Eval Value := do
  let environment ← enter
    { parent := some context.environment
      bindings := lexicalBindings program.scope.lexicals
      holdsVariables := program.strict }
  capture
  let inner : Context :=
    { context with environment, strict := program.strict, keeps := true, labels := [] }
  let surroundings ← variableEnvironment inner
  declareProgram inner surroundings program
  let before ← Eval.view (·.completion)
  .update fun memory => { memory with completion := .undefined }
  let _ ← runStatements inner program.body
  let value ← Eval.view (·.completion)
  .update fun memory => { memory with completion := before }
  return value

/-- Read source and keep its functions in the table; source that cannot be read is thrown. -/
def readProgram [Machine] (permissions : Parser.Permissions) (source : Units) : Eval Program := do
  let table ← Eval.view (·.table)
  match Parser.program permissions table source with
  | .ok (program, table) =>
    .update fun memory => { memory with table }
    return program
  | .error message => raise (.syntactic message)

/-- The outermost environment, which every script shares. -/
def globalEnvironment : EnvironmentRef := ⟨0⟩

/-- The context of code outside every function. -/
def globalContext : Context where
  environment := globalEnvironment
  activation := globalEnvironment
  strict := false

/-- Evaluate source outside every function. -/
def evaluateGlobally [Machine] (source : Units) : Eval Value := do
  runProgram globalContext (← readProgram {} source)

/-- Evaluate source where it stands. -/
def evaluateHere [Machine] (context : Context) (source : Units) : Eval Value := do
  let activation ← activation context
  let inFunction := activation.function.isSome
  let permissions : Parser.Permissions :=
    { strict := context.strict
      newTarget := inFunction
      superCall := false
      superMember := activation.home.isSome }
  let program ← readProgram permissions source
  runProgram context program

/-! ## Members and calls -/

/-- Whether a value is the function that evaluates source. -/
def isEvaluator (memory : Memory) : Value → Bool
  | .object ref =>
    match (memory.object ref).nature with
    | .native (.global .eval) => true
    | _ => false
  | _ => false

/-- Call what an expression names. -/
def callNamed [Machine] (context : Context) (name : Units) (arguments : List Expr) :
    Eval Value := do
  let (this, callee) ← readName context name
  let values ← argumentValues context arguments #[]
  let isDirect ← Eval.view fun memory => name == "eval" && isEvaluator memory callee
  if isDirect then
    match values[0]?.getD .undefined with
    | .text source => evaluateHere context source
    | other => return other
  else Machine.call callee this values

/-- The value of an expression and the object that it is a member of; none if a chain ended. -/
def referenceOf [Machine] (context : Context) (target : Expr) :
    Eval (Option (Value × Value)) := do
  match target with
  | .name name => return some (← readName context name)
  | .grouped inner => Machine.reference context inner
  | .member object name =>
    match ← Machine.reference context object with
    | some (_, object) => return some (object, ← get object (.text name))
    | none => return none
  | .index object key =>
    match ← Machine.reference context object with
    | some (_, object) => return some (object, ← getElement object (← part context key))
    | none => return none
  | .privateMember object name =>
    match ← Machine.reference context object with
    | some (_, object) => return some (object, ← getHidden object (← hiddenKey context name))
    | none => return none
  | .superMember key =>
    let value ← getSuper context (← part context key)
    return some (← thisValue context, value)
  | .optional inner =>
    match ← Machine.reference context inner with
    | some (this, value) => return if value.isMissing then none else some (this, value)
    | none => return none
  | .call (.name name) arguments => return some (.undefined, ← callNamed context name arguments)
  | .call callee arguments =>
    match ← Machine.reference context callee with
    | some (this, callee) =>
      let values ← argumentValues context arguments #[]
      return some (.undefined, ← Machine.call callee this values)
    | none => return none
  | _ => return some (.undefined, ← Machine.expression context target)

/-- Delete what an expression names: whether it is gone. -/
def deleteTarget [Machine] (context : Context) (target : Expr) : Eval Bool := do
  let remove (object : Value) (key : Key) : Eval Bool := do
    let ref ← toObject object
    let gone ← delete ref key
    if !gone && context.strict then raiseType .notDeletable
    return gone
  let target := match target with
    | .chain inner => inner
    | target => target
  match target with
  | .name name | .grouped (.name name) => deleteName context name
  | .member object name =>
    match ← Machine.reference context object with
    | some (_, object) => remove object (.text name)
    | none => return true
  | .index object key =>
    match ← Machine.reference context object with
    | some (_, object) =>
      let key ← part context key
      remove object (← toKey key)
    | none => return true
  | .superMember _ => raise (.reference .superDeletion)
  | _ =>
    let _ ← Machine.reference context target
    return true

/-! ## Assignments -/

/-- What a target of an assignment was found to be, with its parts evaluated. -/
inductive Target where
  | variable (name : Units)
  | element (object : Value) (key : Value)
  | property (object : Value) (key : Key)
  | hidden (object : Value) (key : Key)
  | super (key : Value)

/-- Evaluate the parts of a target. -/
def findTarget [Machine] (context : Context) (target : Expr) : Eval Target := do
  match target with
  | .name name | .grouped (.name name) => return .variable name
  | .member object name => return .property (← part context object) (.text name)
  | .index object key =>
    let object ← part context object
    return .element object (← part context key)
  | .privateMember object name =>
    let object ← part context object
    return .hidden object (← hiddenKey context name)
  | .superMember key => return .super (← part context key)
  | _ => raise (.reference .invalidTarget)

/-- The target with its key as one that is not converted again. -/
def Target.settle [Machine] : Target → Eval Target
  | .element object key =>
    match object, key with
    | .object _, .number _ => return .element object key
    | .undefined, _ | .null, _ => return .element object key
    | _, _ => return .property object (← toKey key)
  | target => return target

/-- The value of a target. -/
def Target.get [Machine] (context : Context) : Target → Eval Value
  | .variable name => return (← readName context name).2
  | .element object key => getElement object key
  | .property object key => Script.get object key
  | .hidden object key => getHidden object key
  | .super key => getSuper context key

/-- Assign a target. -/
def Target.set [Machine] (context : Context) (value : Value) : Target → Eval Unit
  | .variable name => writeName context name value
  | .element object key => setElement object key value context.strict
  | .property object key => Script.set object key value context.strict
  | .hidden object key => setHidden object key value
  | .super key => setSuper context key value

/-- Assign the value of an expression to a target. -/
def assignValue [Machine] (context : Context) (target value : Expr) : Eval Value := do
  match target with
  | .name name | .grouped (.name name) =>
    let place ← findName context name
    let value ← part context value
    match place with
    | some (.binding ..) | some (.property ..) => writePlace context name value place
    | none => writeName context name value
    return value
  | _ =>
    let target ← findTarget context target
    let value ← part context value
    target.set context value
    return value

/-- Assign what an operator yields for a target and an expression. -/
def assignCompound [Machine] (context : Context) (op : BinaryOp) (target value : Expr) :
    Eval Value := do
  let target ← (← findTarget context target).settle
  let first ← target.get context
  let second ← part context value
  let result ← binary op first second
  target.set context result
  return result

/-- Whether an operator leaves its first operand as the result. -/
def LogicalOp.keeps (op : LogicalOp) (first : Value) : Bool :=
  match op with
  | .and => !first.truth
  | .or => first.truth
  | .coalesce => !first.isMissing

/-- Assign the value of an expression to a target unless its own value is to be kept. -/
def assignLogical [Machine] (context : Context) (op : LogicalOp) (target value : Expr) :
    Eval Value := do
  let target ← (← findTarget context target).settle
  let first ← target.get context
  if op.keeps first then return first
  else
    let result ← part context value
    target.set context result
    return result

/-- Count a target up or down. -/
def updateTarget [Machine] (context : Context) (increment postfixed : Bool) (target : Expr) :
    Eval Value := do
  let target ← (← findTarget context target).settle
  let before ← toNumeric (← target.get context)
  let after := before.step increment
  target.set context after.value
  return if postfixed then before.value else after.value

/-! ## Expressions -/

/-- Make an object by what an expression names. -/
def makeNew [Machine] (context : Context) (callee : Expr) (arguments : List Expr) :
    Eval Value := do
  let callee ← part context callee
  let values ← argumentValues context arguments #[]
  match callee with
  | .object ref =>
    if ← isConstructor callee then Machine.construct ref values ref else raiseType .notConstructor
  | _ => raiseType .notFunction

/-- Call a tag with the parts of a template. -/
def callTag [Machine] (context : Context) (tag : Expr) (cooked : List (Option Units))
    (raw : List Units) (parts : List Expr) : Eval Value := do
  match ← Machine.reference context tag with
  | some (this, callee) =>
    let texts ← templateObject cooked raw
    let values ← argumentValues context parts #[texts]
    Machine.call callee this values
  | none => return .undefined

/-- The value of an expression. -/
def expressionValue [Machine] (context : Context) (expression : Expr) : Eval Value := do
  match expression with
  | .hole | .undefined => return .undefined
  | .null => return .null
  | .boolean value => return .boolean value
  | .number value => return .number value
  | .bigint value => return .bigint value
  | .text value => return .text value
  | .regex _ => raiseType .regexArgument
  | .template strings parts => makeText (← templateText context strings parts .empty)
  | .tagged tag cooked raw parts => callTag context tag cooked raw parts
  | .name name => return (← readName context name).2
  | .hidden _ => return .undefined
  | .this => thisValue context
  | .newTarget =>
    match (← activation context).newTarget with
    | some ref => return .object ref
    | none => return .undefined
  | .array items => arrayValue context items
  | .object members =>
    let target ← makePlain
    fillObject context target members
    return .object target
  | .function place => makeFunction context place
  | .class place => makeClass context place
  | .unary .typeName (.name name) =>
    let value ← readNameIfAny context name
    return .ofString (← Eval.view (typeName · value))
  | .unary op operand => unary op (← part context operand)
  | .delete operand => return .boolean (← deleteTarget context operand)
  | .update increment postfixed target => updateTarget context increment postfixed target
  | .binary op left right =>
    let first ← part context left
    let second ← part context right
    binary op first second
  | .logical op left right =>
    let first ← part context left
    if op.keeps first then return first else part context right
  | .conditional test consequent alternate =>
    if (← part context test).truth then part context consequent else part context alternate
  | .assign target value => assignValue context target value
  | .destructure pattern value =>
    let value ← part context value
    Machine.assign context false pattern value
    return value
  | .compound op target value => assignCompound context op target value
  | .logicalAssign op target value => assignLogical context op target value
  | .sequence first second =>
    let _ ← part context first
    part context second
  | .member object name => get (← part context object) (.text name)
  | .index object key =>
    let object ← part context object
    getElement object (← part context key)
  | .privateMember object name =>
    let object ← part context object
    getHidden object (← hiddenKey context name)
  | .privateIn name object =>
    match ← part context object with
    | .object ref =>
      let key ← hiddenKey context name
      return .boolean (← own? ref key).isSome
    | _ => raiseType .badHasOperand
  | .superMember key => getSuper context (← part context key)
  | .superCall arguments => constructParent context (← argumentValues context arguments #[])
  | .call (.name name) arguments => callNamed context name arguments
  | .call callee arguments =>
    match ← Machine.reference context callee with
    | some (this, callee) =>
      let values ← argumentValues context arguments #[]
      Machine.call callee this values
    | none => return .undefined
  | .new callee arguments => makeNew context callee arguments
  | .chain inner | .optional inner =>
    match ← Machine.reference context inner with
    | some (_, value) => return value
    | none => return .undefined
  | .await operand =>
    let _ ← part context operand
    Eval.stop .suspended
  | .yield operand => part context operand
  | .spread inner | .grouped inner => part context inner
  | .arrayPattern _ | .objectPattern _ | .withDefault .. => raise (.reference .invalidTarget)

end Scratchpad.Script
