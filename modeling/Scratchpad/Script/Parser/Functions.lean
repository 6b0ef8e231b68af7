import Scratchpad.Script.Parser.Patterns

/-!
# Functions

Parameters, directives and bodies. A body may turn out to be strict only after its parameters were
read; then their names are checked once more.
-/
namespace Scratchpad.Script.Parser

open Scratchpad.Text (Units)

/-! ## Frames -/

/-- The frame of a function inside another one. -/
def Frame.ofHeading (outer : Frame) (heading : Heading) : Frame :=
  let isArrow := heading.kind = .arrow
  let isDerived := heading.kind = .derivedConstructor
  let hasHome := match heading.kind with
    | .method | .getter | .setter | .baseConstructor | .derivedConstructor | .initializer => true
    | .ordinary | .arrow => false
  { kind := heading.kind
    isProgram := false
    asynchronous := heading.asynchronous
    generator := heading.generator
    strict := outer.strict
    newTargetAllowed := if isArrow then outer.newTargetAllowed else true
    superCallAllowed := if isArrow then outer.superCallAllowed else isDerived
    superAllowed := if isArrow then outer.superAllowed else hasHome
    argumentsAllowed :=
      if isArrow then outer.argumentsAllowed else heading.kind ≠ .initializer }

/-- Read the token that is next once more, if it is a word; it may be reserved here or not. -/
def reread : Parse Unit := do
  let state ← get
  match state.current.token with
  | .identifier .. | .keyword _ =>
    match Lexer.tokenAt state.mode state.source state.current.start with
    | .ok (token, stop) => set { state with current := { state.current with token, stop } }
    | .error message => fail message
  | _ => return ()

/-- Read a function inside another one: what the step finds, and the frame at its end. -/
def withFrame {α : Type} (inner : Frame) (step : Parse α) : Parse (α × Frame) := do
  modify fun state => { state with frames := inner :: state.frames }
  let result ← step
  let last ← frame
  modify fun state => { state with frames := state.frames.tail }
  reread
  return (result, last)

/-! ## Parameters -/

/-- A parameter that is a plain name. -/
def nameParameter [Grammar] (name : Units) (reserved isRest : Bool) : Parse Expr := do
  let frame ← frame
  if reserved || (frame.generator && name == Units.ofString "yield") then reservedName
  if frame.hasInitials then
    noteParameter name
    declare name (.lexical false)
  else modifyFrame fun frame =>
    { frame with parameterNames := frame.parameterNames ++ [name] }
  modifyFrame fun frame =>
    { frame with plainNames := frame.plainNames ++ [name], simple := frame.simple && !isRest }
  advance
  if isRest then return .spread (.name name)
  else if ← isAt "=" then
    modifyFrame fun frame => { frame with simple := false }
    withInitial (.name name)
  else return .name name

/-- A parameter that is a pattern. -/
def patternParameter [Grammar] (isRest : Bool) : Parse Expr := do
  modifyFrame fun frame => { frame with simple := false }
  let kind : DeclarationKind := if (← frame).hasInitials then .lexical false else .var
  let (inner, initial) ← Grammar.pattern (some kind) true true
  match initial with
  | some initial => return .withDefault inner initial
  | none => return if isRest then .spread inner else inner

/-- The message for a getter or setter with other parameters than it should have. -/
def accessorFault : String := "invalid number of arguments for getter or setter"

/-- One parameter, up to what follows it. -/
def parameter [Grammar] (kind : FunctionKind) : Parse Expr := do
  let isRest ← accept "..."
  if isRest && kind = .setter then fail accessorFault
  let found ← match ← token with
    | .punctuator "[" | .punctuator "\x7b" => patternParameter isRest
    | .identifier name _ reserved => nameParameter name reserved isRest
    | _ => fail "missing formal parameter"
  if isRest && !(← isAt ")") then expect ")"
  return found

/-- The parameters, up to the closing parenthesis. -/
def parameterList [Grammar] (kind : FunctionKind) : Parse (List Expr) := do
  let found ← repeatWhile (fun found => do
    if ← isAt ")" then return (found, false)
    else
      let next ← parameter kind
      if ← isAt ")" then return (next :: found, false)
      else
        expect ","
        return (next :: found, true)) []
  let count := found.length
  if (kind = .getter && count ≠ 0) || (kind = .setter && count ≠ 1) then fail accessorFault
  return found.reverse

/-- The parameters of a function, and the token after them: a list in parentheses, or the one name
of an arrow function. -/
def parameters [Grammar] (kind : FunctionKind) : Parse (List Expr) := do
  match ← token with
  | .identifier name _ reserved =>
    if kind = .arrow then
      if reserved then reservedName
      modifyFrame fun frame =>
        { frame with plainNames := [name], parameterNames := [name] }
      modifyFrame fun frame => { frame with inBody := true }
      advance
      return [.name name]
    else unexpected
  | _ =>
    if !(← isAt "(") then unexpected
    let skipped ← skipBrackets
    modifyFrame fun frame => { frame with hasInitials := skipped.hasAssignment }
    advance
    let _ ← enterBlock
    let found ← parameterList kind
    let _ ← leaveBlock
    advance
    return found

/-- The number of parameters before the first with an initial value or the rest. -/
def parameterCount (parameters : List Expr) : Nat :=
  (parameters.takeWhile fun parameter =>
    match parameter with
    | .withDefault .. | .spread _ => false
    | _ => true).length

/-- Whether a list holds an item twice. -/
def hasDuplicate (names : List Units) : Bool :=
  match names with
  | [] => false
  | name :: rest => rest.contains name || hasDuplicate rest

/-- Check the names of a function and its parameters once its strictness is known. -/
def checkNames (heading : Heading) : Parse Unit := do
  let frame ← frame
  if frame.strict then
    if !frame.simple && frame.directive then
      fail "\"use strict\" not allowed in function with default or destructuring parameter"
    if isRestricted heading.name && heading.kind = .ordinary then
      fail "invalid function name in strict code"
    if frame.plainNames.any isRestricted then fail "invalid argument name in strict code"
  let unique := frame.strict || !frame.simple || heading.kind = .arrow || heading.kind = .method
  if unique && hasDuplicate frame.parameterNames then
    fail "duplicate argument names not allowed in this context"

/-! ## Bodies -/

/-- Whether a token that follows a directive on a new line ends it. -/
def endsDirective : Token → Bool
  | .punctuator text => ["++", "--"].contains text
  | .keyword word => !(["in", "instanceof"].contains word)
  | _ => true

/-- Read the directives at the beginning of a body; they are read once more as statements. -/
def directives : Parse Unit := do
  let before ← get
  repeatWhile (fun _ => do
    match ← token with
    | .text _ =>
      let current := (← get).current
      let text := (← get).source.slice (current.start + 1) (current.stop - 1)
      advance
      let ends ← if ← accept ";" then pure true
        else if (← isAt "\x7d") || ((← token) matches .finish) then pure true
        else pure ((← atNewline) && endsDirective (← token))
      if ends && text == Units.ofString "use strict" then
        modifyFrame fun frame => { frame with strict := true, directive := true }
      return ((), ends)
    | _ => return ((), false)) ()
  let frame ← frame
  set before
  modifyFrame fun old => { old with strict := frame.strict, directive := frame.directive }
  scanAt before.current.start
  modify fun state =>
    { state with current := { state.current with newline := before.current.newline } }

/-- A function declared at the top of a function or a program: its name is a variable. -/
def topFunction [Grammar] : Parse Unit := do
  let start := (← get).current.start
  let (asynchronous, generator) ← functionPrefix
  match ← token with
  | .identifier name _ reserved =>
    if reserved then reservedName
    advance
    let place ← Grammar.functionRest { kind := .ordinary, asynchronous, generator, start, name }
    let frame ← frame
    if frame.isProgram && !frame.strict then addVariable name else declare name .var
    addBlockFunction name place
  | _ => fail "function name expected"

/-- Whether the next token begins a function declaration. -/
def isFunction : Parse Bool := do
  return (← isAtKeyword "function") || (← isAsyncFunction)

/-- The statements of a body, up to a token that ends it. -/
def bodyStatements [Grammar] (ends : Parse Bool) : Parse (List Stmt) := do
  let found ← repeatWhile (fun found => do
    if ← ends then return (found, false)
    else if ← isFunction then
      topFunction
      return (found, true)
    else
      let next ← Grammar.statement .all
      return (next :: found, true)) []
  return found.reverse

/-- A body in braces, and the index after it. -/
def braced [Grammar] (heading : Heading) : Parse (List Stmt × Nat) := do
  expect "\x7b"
  directives
  checkNames heading
  let body ← bodyStatements (isAt "\x7d")
  let stop := (← get).current.stop
  advance
  return (body, stop)

/-- A body: statements in braces, or the one expression of an arrow function. -/
def functionBody [Grammar] (heading : Heading) : Parse (List Stmt × Nat) := do
  modifyFrame fun frame => { frame with inBody := true }
  let id ← enterBlock
  modifyFrame fun frame => { frame with bodyId := id }
  if heading.kind = .arrow then
    if !(← accept "=>") then unexpected
    else if ← isAt "\x7b" then braced heading
    else
      checkNames heading
      let value ← assignment true
      return ([.return (some value)], (← get).lastStop)
  else braced heading

/-- The names of variables in the order of their first declaration. -/
def Frame.variableNames (frame : Frame) : List Units :=
  (frame.varNames.reverse.map (·.1)).foldl (fun names name =>
    if names.contains name then names else names ++ [name]) []

/-- The function that a frame and its parts make. -/
def Frame.function (frame : Frame) (heading : Heading) (source : Units) (parameters : List Expr)
    (body : List Stmt) : Function where
  name := heading.name
  kind := heading.kind
  asynchronous := heading.asynchronous
  generator := heading.generator
  strict := frame.strict
  length := parameterCount parameters
  source := source
  parameters := parameters
  simple := frame.simple
  parameterNames := frame.parameterNames
  varNames := frame.variableNames
  scope := (frame.blocks.headD default).scope
  selfName := heading.selfName
  usesArguments := frame.usesArguments
  body := body

/-- The parameters and the body of a function: its place in the table. -/
def functionProduction [Grammar] (heading : Heading) : Parse Nat := do
  let outer ← frame
  let ((parameters, body, stop), frame) ← withFrame (.ofHeading outer heading) do
    let found ← parameters heading.kind
    let (body, stop) ← functionBody heading
    return (found, body, stop)
  let source := (← get).source.slice heading.start stop
  addFunction (frame.function heading source parameters body)

end Scratchpad.Script.Parser
