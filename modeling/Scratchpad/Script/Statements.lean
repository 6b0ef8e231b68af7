import Scratchpad.Script.Expressions

/-!
# Statements at run time

How every form of a statement ends. A loop goes on after a jump that is meant for it, and leaves any
other jump to the statements around it.
-/
namespace Scratchpad.Script

open Scratchpad.Text (Units)

/-- Keep a value as that of the script, if values are kept. -/
def keep [Machine] (context : Context) (value : Value) : Eval Unit := do
  if context.keeps then .update fun memory => { memory with completion := value }

/-- How a loop ends because of how its body ended; none if it goes on. -/
def leaves (context : Context) : Flow → Option Flow
  | .normal | .continue none => none
  | .continue (some label) =>
    if context.labels.contains label then none else some (.continue (some label))
  | .break none => some .normal
  | flow => some flow

/-- Do a step and forget the environments that it made, if none was kept for later. -/
@[inline]
def leaving [Machine] {α : Type} (step : Eval α) : Eval α := do
  let mark ← mark
  let found ← step
  leave mark
  return found

/-! ## Declarations -/

/-- Carry out the bindings of a declaration. -/
def declareBindings [Machine] (context : Context) (kind : DeclarationKind) :
    List (Expr × Option Expr) → Eval Unit
  | [] => return ()
  | (target, initial) :: rest => do
    let fresh := kind ≠ .var
    match target, initial with
    | .name name, some initial =>
      if fresh then initiateName context.environment name (← part context initial)
      else let _ ← assignValue context target initial
    | .name name, none => if fresh then initiateName context.environment name .undefined
    | _, some initial => Machine.assign context fresh target (← part context initial)
    | _, none => pure ()
    declareBindings context kind rest

/-- Give the function of a block also to the variable of its name. -/
def exportFunction [Machine] (context : Context) (name : Units) : Eval Unit := do
  let (_, value) ← readName context name
  let surroundings ← variableEnvironment context
  match ← Eval.view fun memory => (memory.environment surroundings).object with
  | some object => set (.object object) (.text name) value false
  | none => initiateName surroundings name value

/-! ## Loops -/

/-- A copy of an environment. -/
def copyEnvironment [Machine] (ref : EnvironmentRef) : Eval EnvironmentRef := do
  enter (← Eval.view (·.environment ref))

/-- The truth of a test; a missing one holds. -/
def testHolds [Machine] (context : Context) : Option Expr → Eval Bool
  | some test => return (← part context test).truth
  | none => return true

/-- Evaluate an expression that may be missing. -/
def evaluateIfAny [Machine] (context : Context) : Option Expr → Eval Unit
  | some expression => do let _ ← part context expression
  | none => return ()

/-- Run a loop with its test in front. -/
def runWhile [Machine] (context : Context) (test : Expr) (body : Stmt) : Eval Flow :=
  let inner := { context with labels := [] }
  repeatUntil (fun _ => do
    if (← part inner test).truth then
      match leaves context (← Machine.statement inner body) with
      | some flow => return .inl flow
      | none => return .inr ()
    else return .inl .normal) ()

/-- Run a loop with its test behind. -/
def runDoWhile [Machine] (context : Context) (body : Stmt) (test : Expr) : Eval Flow :=
  let inner := { context with labels := [] }
  repeatUntil (fun _ => do
    match leaves context (← Machine.statement inner body) with
    | some flow => return .inl flow
    | none => if (← part inner test).truth then return .inr () else return .inl .normal) ()

/-- The turns of a counting loop. -/
def runTurns [Machine] (context : Context) (inner : Context) (test update : Option Expr)
    (body : Stmt) (fresh : Bool) : Eval Flow :=
  repeatUntil (fun environment => do
    let turn := { inner with environment }
    if ← testHolds turn test then
      match leaves context (← Machine.statement turn body) with
      | some flow => return .inl flow
      | none =>
        let next ← if fresh then copyEnvironment environment else pure environment
        evaluateIfAny { inner with environment := next } update
        return .inr next
    else return .inl .normal) inner.environment

/-- Run a counting loop. -/
def runFor [Machine] (context : Context) (names : List Lexical) (start : Stmt)
    (test update : Option Expr) (body : Stmt) (fresh : Bool) : Eval Flow := do
  let inner ← if names.isEmpty then pure { context with labels := [] }
    else
      let environment ← enter
        { parent := some context.environment, bindings := lexicalBindings names }
      pure { context with environment, labels := [] }
  let _ ← Machine.statement inner start
  let copies := fresh && names.any (!·.constant)
  let inner ← if copies then
      pure { inner with environment := ← copyEnvironment inner.environment }
    else pure inner
  runTurns context inner test update body copies

/-- The context in which the object of a loop is evaluated: its names cannot be used there. -/
def headContext [Machine] (context : Context) (target : LoopTarget) : Eval Context := do
  if target.names.isEmpty then return { context with labels := [] }
  else
    let environment ← enter
      { parent := some context.environment, bindings := lexicalBindings target.names }
    return { context with environment, labels := [] }

/-- One turn of a loop over keys or values: the body with the target bound. -/
def runTurn [Machine] (context : Context) (target : LoopTarget) (body : Stmt) (value : Value) :
    Eval Flow :=
  leaving do
    let inner ← headContext context target
    let fresh := match target.declares with
      | some (.lexical _) => true
      | _ => false
    Machine.assign inner fresh target.pattern value
    Machine.statement inner body

/-- The keys that are seen of an object and its prototypes, at most `fuel` of them: strings, each of
them once. -/
def seenKeysFrom (memory : Memory) : Nat → Ref → Array Key → Array Key → Array Key
  | 0, _, _, found => found
  | fuel + 1, ref, passed, found =>
    let object := memory.object ref
    let keys := object.ownKeys.filter fun key => key.isText && !passed.contains key
    let found := found ++ keys.filter fun key => (object.own? key).any Slot.isEnumerable
    match object.prototype with
    | some prototype => seenKeysFrom memory fuel prototype (passed ++ keys) found
    | none => found

/-- The keys that are seen of an object and its prototypes. -/
def seenKeys (memory : Memory) (ref : Ref) : Array Key :=
  seenKeysFrom memory memory.objects.size ref #[] #[]

/-- The turns of a loop over keys. -/
def runKeys [Machine] (context : Context) (target : LoopTarget) (body : Stmt) (ref : Ref) :
    List Key → Eval Flow
  | [] => return .normal
  | key :: rest => do
    tick
    if ← has ref key then
      match leaves context (← runTurn context target body key.value) with
      | some flow => return flow
      | none => runKeys context target body ref rest
    else runKeys context target body ref rest

/-- Run a loop over the keys of an object. -/
def runForIn [Machine] (context : Context) (target : LoopTarget) (object : Expr) (body : Stmt) :
    Eval Flow := do
  let value ← leaving do part (← headContext context target) object
  if value.isMissing then return .normal
  else
    let ref ← toObject value
    let keys ← Eval.view (seenKeys · ref)
    runKeys context target body ref keys.toList

/-- Run a loop over the values of an iterable object. -/
def runForOf [Machine] (context : Context) (target : LoopTarget) (iterable : Expr) (body : Stmt)
    (awaits : Bool) : Eval Flow := do
  let value ← leaving do part (← headContext context target) iterable
  let walk ← Walk.start value
  if awaits then Eval.stop .suspended
  repeatUntil (fun _ => do
    match ← walk.step? with
    | none => return .inl .normal
    | some value =>
      match leaves context (← walk.guard (runTurn context target body value)) with
      | some flow =>
        walk.close
        return .inl flow
      | none => return .inr ()) ()

/-! ## Other statements -/

/-- The cases of a switch from the first one on whose test gives a value. -/
def matchingCases [Machine] (context : Context) (value : Value) :
    List Case → Eval (Option (List Case))
  | [] => return none
  | .mk test body :: rest => do
    match test with
    | some test =>
      if (← part context test).strictEq value then return some (.mk (some test) body :: rest)
      else matchingCases context value rest
    | none => matchingCases context value rest

/-- The cases of a switch from the default on. -/
def defaultCases : List Case → List Case
  | [] => []
  | .mk none body :: rest => .mk none body :: rest
  | _ :: rest => defaultCases rest

/-- Run the statements of cases. -/
def runCases [Machine] (context : Context) : List Case → Eval Flow
  | [] => return .normal
  | .mk _ body :: rest => do
    match ← runStatements context body with
    | .normal => runCases context rest
    | flow => return flow

/-- Run a choice between cases. -/
def runSwitch [Machine] (context : Context) (value : Expr) (scope : Scope) (cases : List Case) :
    Eval Flow :=
  leaving do
    let value ← part context value
    let inner ← enterScope context scope
    let chosen ← matchingCases inner value cases
    match ← runCases inner (chosen.getD (defaultCases cases)) with
    | .break none => return .normal
    | flow => return flow

/-- Run a statement with a handler. -/
def runHandled [Machine] (context : Context) (body : Stmt) (parameter : Option Expr)
    (names : List Lexical) (handler : Stmt) : Eval Flow :=
  Eval.orElseThrown (Machine.statement context body) fun value => do
    let environment ← enter
      { parent := some context.environment, bindings := lexicalBindings names }
    let inner := { context with environment }
    match parameter with
    | some parameter => Machine.assign inner true parameter value
    | none => pure ()
    Machine.statement inner handler

/-- Run a statement whose end is watched: how the finalizer ends wins unless it ends normally. -/
def runFinalized [Machine] (context : Context) (body finalizer : Stmt) : Eval Flow := do
  let outcome ← Eval.attempt (Machine.statement context body)
  let finish : Eval Flow := do
    let before ← Eval.view (·.completion)
    match ← Machine.statement context finalizer with
    | .normal =>
      .update fun memory => { memory with completion := before }
      return .normal
    | flow => return flow
  match outcome with
  | .ok flow =>
    match ← finish with
    | .normal => return flow
    | flow => return flow
  | .error (.thrown value) =>
    match ← finish with
    | .normal => Eval.throwValue value
    | flow => return flow
  | .error abrupt => Eval.stop abrupt

/-- How a statement ends. -/
def statementFlow [Machine] (context : Context) (statement : Stmt) : Eval Flow := do
  let inner := { context with labels := [] }
  match statement with
  | .empty => return .normal
  | .expression value =>
    let value ← part inner value
    keep context value
    return .normal
  | .declare kind bindings =>
    declareBindings inner kind bindings
    return .normal
  | .exportFunction name =>
    exportFunction inner name
    return .normal
  | .class name place =>
    initiateName context.environment name (← makeClass inner place)
    return .normal
  | .block scope body =>
    leaving do runStatements (← enterScope inner scope) body
  | .if test consequent alternate =>
    let test ← part inner test
    keep context .undefined
    if test.truth then Machine.statement inner consequent else Machine.statement inner alternate
  | .for names start test update body fresh =>
    keep context .undefined
    leaving (runFor context names start test update body fresh)
  | .forIn target object body =>
    keep context .undefined
    runForIn context target object body
  | .forOf target iterable body awaits =>
    keep context .undefined
    runForOf context target iterable body awaits
  | .while test body =>
    keep context .undefined
    runWhile context test body
  | .doWhile body test =>
    keep context .undefined
    runDoWhile context body test
  | .return none => return .return .undefined
  | .return (some value) => return .return (← part inner value)
  | .break label => return .break label
  | .continue label => return .continue label
  | .throw value => Eval.throwValue (← part inner value)
  | .tryCatch body parameter names handler =>
    keep context .undefined
    runHandled inner body parameter names handler
  | .tryFinally body finalizer =>
    keep context .undefined
    runFinalized inner body finalizer
  | .switch value scope cases =>
    keep context .undefined
    runSwitch inner value scope cases
  | .labeled label body =>
    match ← Machine.statement { context with labels := label :: context.labels } body with
    | .break (some target) =>
      if target == label then return .normal else return .break (some target)
    | flow => return flow
  | .with object body =>
    leaving do
      let ref ← toObject (← part inner object)
      let environment ← enter { parent := some context.environment, object := some ref }
      keep context .undefined
      Machine.statement { inner with environment } body

end Scratchpad.Script
