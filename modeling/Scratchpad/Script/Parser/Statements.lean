import Scratchpad.Script.Parser.Classes

/-!
# Statements

Every form of a statement, and the declarations that are statements in some places only.
-/
namespace Scratchpad.Script.Parser

open Scratchpad.Text (Units)

/-- Read something in a block of its own, together with what the block declares. -/
def inBlock {α : Type} (step : Parse α) : Parse (α × Block) := do
  let _ ← enterBlock
  let result ← step
  return (result, ← leaveBlock)

/-- A statement in a block that declares something, or the statement alone. -/
def Block.wrap (block : Block) (body : List Stmt) : Stmt :=
  match body with
  | [one] => if block.scope.isEmpty then one else .block block.scope body
  | _ => .block block.scope body

/-- Statements up to a closing brace, which is skipped. -/
def statementList [Grammar] : Parse (List Stmt) := do
  let found ← repeatWhile (fun found => do
    if ← isAt "\x7d" then return (found, false)
    else
      let next ← Grammar.statement .all
      return (next :: found, true)) []
  advance
  return found.reverse

/-- A block in braces. -/
def blockStatement [Grammar] : Parse Stmt := do
  expect "\x7b"
  let (body, block) ← inBlock statementList
  return .block block.scope body

/-! ## Declarations -/

/-- Whether the next token is the word `let` at the beginning of a declaration. -/
def isLet (allowed : Allowed) : Parse Bool := do
  if ← isAtWord "let" then
    lookAhead do
      advance
      let next ← token
      if next.isPunctuator "[" then return true
      else
        let begins := next.isPunctuator "\x7b" || next.isName || next.isKeyword "let" ||
          next.isKeyword "yield" || next.isKeyword "await"
        return begins && (allowed.others || !(← atNewline))
  else return false

/-- One binding of a declaration. -/
def binding [Grammar] (kind : DeclarationKind) (allowIn : Bool) : Parse (Expr × Option Expr) := do
  match ← token with
  | .identifier name _ reserved =>
    if reserved then reservedName
    if kind ≠ .var && name == Units.ofString "let" then
      fail "'let' is not a valid lexically bound identifier"
    advance
    bind name kind
    if ← accept "=" then
      let value ← assignment allowIn
      giveName name value
      return (.name name, some value)
    else if kind = .lexical true then fail "missing initializer for const variable"
    else return (.name name, none)
  | _ =>
    let isPattern ← beginsPattern ["="]
    if isPattern then Grammar.pattern (some kind) false true
    else fail "variable name expected"

/-- The bindings of a declaration. -/
def bindings [Grammar] (kind : DeclarationKind) (allowIn : Bool) : Parse Stmt := do
  let found ← repeatWhile (fun found => do
    let next ← binding kind allowIn
    let goesOn ← accept ","
    return (next :: found, goesOn)) []
  return .declare kind found.reverse

/-- The kind of declaration that the next token begins. -/
def declaration? (allowed : Allowed) : Parse (Option DeclarationKind) := do
  match ← token with
  | .keyword "var" => return some .var
  | .keyword "const" => return some (.lexical true)
  | .keyword "let" => return some (.lexical false)
  | .identifier .. => return if ← isLet allowed then some (.lexical false) else none
  | _ => return none

/-- A declaration of variables or lexical names. -/
def declarationStatement [Grammar] (kind : DeclarationKind) (allowed : Allowed) : Parse Stmt := do
  if kind ≠ .var && !allowed.others then
    fail "lexical declarations can't appear in single-statement context"
  advance
  let found ← bindings kind true
  endStatement
  return found

/-- Whether a function of a block also becomes a variable of the function around. -/
def exportsFunction (frame : Frame) (name : Units) (plain : Bool) : Bool :=
  !frame.strict && plain && (findLexical name false frame.blocks).isNone &&
    !frame.plainNames.contains name &&
    !(name == Units.ofString "arguments" && !frame.isProgram && frame.kind ≠ .arrow)

/-- A function declared inside a block. -/
def innerFunction [Grammar] : Parse Stmt := do
  let start := (← get).current.start
  let (asynchronous, generator) ← functionPrefix
  match ← token with
  | .identifier name _ reserved =>
    if reserved then reservedName
    advance
    let plain := !asynchronous && !generator
    let exported := exportsFunction (← frame) name plain
    declare name (if plain then .function else .newFunction)
    let place ← Grammar.functionRest { kind := .ordinary, asynchronous, generator, start, name }
    addBlockFunction name place
    if exported then
      addVariable name
      return .exportFunction name
    else return .empty
  | _ => fail "function name expected"

/-- A class declared by a statement. -/
def classStatement [Grammar] (allowed : Allowed) : Parse Stmt := do
  if !allowed.others then fail "class declarations can't appear in single-statement context"
  let (name, place) ← Grammar.classRest false
  declare name (.lexical false)
  return .class name place

/-! ## Loops -/

/-- A statement inside a loop. -/
def loopBody [Grammar] (label : Option Units) : Parse Stmt :=
  withTarget { label, loops := true, plain := true } (Grammar.statement .none)

/-- A loop with its test in front. -/
def whileStatement [Grammar] (label : Option Units) : Parse Stmt := do
  advance
  let test ← parenthesized
  return .while test (← loopBody label)

/-- A loop with its test behind. -/
def doStatement [Grammar] (label : Option Units) : Parse Stmt := do
  advance
  let body ← loopBody label
  expectKeyword "while"
  let test ← parenthesized
  let _ ← accept ";"
  return .doWhile body test

/-- What begins a counting loop, up to its semicolon. -/
def loopStart [Grammar] : Parse Stmt := do
  if ← isAt ";" then return .empty
  else
    match ← declaration? .all with
    | some kind =>
      advance
      bindings kind false
    | none => return .expression (← expression false)

/-- An expression that is left out if a punctuator is next. -/
def optionalExpression [Grammar] (follower : String) : Parse (Option Expr) := do
  if ← isAt follower then return none else return some (← expression true)

/-- A counting loop, from its first part on. -/
def countingLoop [Grammar] (label : Option Units) : Parse Stmt := do
  let before ← made
  let ((start, test, update, body), block) ← inBlock do
    let start ← loopStart
    expect ";"
    let test ← optionalExpression ";"
    expect ";"
    let update ← optionalExpression ")"
    expect ")"
    return (start, test, update, ← loopBody label)
  let fresh := (← made) ≠ before
  return .for block.lexicals start test update body fresh

/-- The message for an initial value in the head of a loop. -/
def headFault (isOf : Bool) : String :=
  "a declaration in the head of a for-" ++ (if isOf then "of" else "in") ++
    " loop can't have an initializer"

/-- What a loop over an object binds: a declared name or pattern. -/
def declaredTarget [Grammar] (kind : DeclarationKind) : Parse Expr := do
  advance
  match ← token with
  | .identifier name _ reserved =>
    if reserved then fail "variable name expected"
    advance
    bind name kind
    return .name name
  | .punctuator "[" | .punctuator "\x7b" => return (← Grammar.pattern (some kind) false false).1
  | _ => fail "variable name expected"

/-- What a loop over an object assigns to. -/
def assignedTarget [Grammar] : Parse Expr := do
  let isPattern ← if (← isAt "[") || (← isAt "\x7b") then do
      let skipped ← skipBrackets
      pure (skipped.follower.isKeyword "in" || skipped.follower.isWord "of")
    else pure false
  if isPattern then return (← Grammar.pattern none false false).1
  else asTarget .loop (← Grammar.postfixed true)

/-- The target of a loop over an object, and how it is declared. -/
def loopTarget [Grammar] (awaits : Bool) : Parse (Option DeclarationKind × Expr) := do
  match ← declaration? .all with
  | some kind => return (some kind, ← declaredTarget kind)
  | none =>
    let isAsync ← isAtWord "async"
    if !awaits && isAsync && (← peek).token.isWord "of" then
      fail "'for of' expression cannot start with 'async'"
    else return (none, ← assignedTarget)

/-- A loop over the keys or values of an object, from its target on. -/
def objectLoop [Grammar] (label : Option Units) (awaits : Bool) : Parse Stmt := do
  let ((kind, pattern, initial, isOf, object, body), block) ← inBlock do
    let (kind, pattern) ← loopTarget awaits
    let initial ← if ← accept "=" then some <$> assignment false else pure none
    let isOf ← isAtWord "of"
    let isIn ← isAtKeyword "in"
    if isOf then
      if initial.isSome then fail (headFault true)
    else if isIn then
      if awaits then fail "'for await' loop should be used with 'of'"
      let fits := kind = some .var && !(← frame).strict && pattern matches .name _
      if initial.isSome && !fits then fail (headFault false)
    else fail "expected 'of' or 'in' in for control expression"
    advance
    let object ← if isOf then assignment true else expression true
    expect ")"
    return (kind, pattern, initial, isOf, object, ← loopBody label)
  let target : LoopTarget := { declares := kind, pattern, names := block.lexicals }
  let loop : Stmt := if isOf then .forOf target object body awaits else .forIn target object body
  match initial with
  | some value => return .block default [.declare .var [(pattern, some value)], loop]
  | none => return loop

/-- A loop that `for` begins. -/
def forStatement [Grammar] (label : Option Units) : Parse Stmt := do
  advance
  let skipped ← if ← isAt "(" then skipBrackets else pure {}
  let awaits ← isAtKeyword "await"
  if awaits then
    if !(← frame).asynchronous then
      fail "for await is only valid in asynchronous functions"
    advance
  expect "("
  if skipped.hasSemicolon then countingLoop label else objectLoop label awaits

/-! ## Other statements -/

/-- A condition. -/
def ifStatement [Grammar] : Parse Stmt := do
  advance
  let allowed : Allowed := if (← frame).strict then .none else .function
  let (statement, block) ← inBlock do
    let test ← parenthesized
    let consequent ← Grammar.statement allowed
    let alternate ← if ← isAtKeyword "else" then do
        advance
        Grammar.statement allowed
      else pure .empty
    return Stmt.if test consequent alternate
  return block.wrap [statement]

/-- The statement that returns from a function. -/
def returnStatement [Grammar] : Parse Stmt := do
  let frame ← frame
  if frame.isProgram then fail "return not in a function"
  if frame.staticBlock then fail "return in a static initializer block"
  advance
  let ends := (← isAt ";") || (← isAt "\x7d") || (← atNewline)
  let value ← if ends then pure none else some <$> expression true
  endStatement
  return .return value

/-- The statement that throws. -/
def throwStatement [Grammar] : Parse Stmt := do
  advance
  if ← atNewline then fail "line terminator not allowed after throw"
  let value ← expression true
  endStatement
  return .throw value

/-- A jump out of a statement or to the next turn of a loop. -/
def jumpStatement (continues : Bool) : Parse Stmt := do
  advance
  let label : Option Units ← match ← token with
    | .identifier name _ reserved => do
      pure (if reserved || (← atNewline) then none else some name)
    | _ => pure none
  checkJump label continues
  if label.isSome then advance
  endStatement
  return if continues then .continue label else .break label

/-- What was read of a switch. -/
structure Cases where
  /-- The finished cases, latest first. -/
  found : List Case := []
  /-- The case that is being read, with its statements in reverse. -/
  current : Option (Option Expr × List Stmt) := none
  hasDefault : Bool := false

/-- The cases with the one that is being read finished. -/
def Cases.close (cases : Cases) : Cases :=
  match cases.current with
  | some (test, body) => { cases with found := .mk test body.reverse :: cases.found, current := none }
  | none => cases

/-- One test or statement of a switch. -/
def caseStep [Grammar] (cases : Cases) : Parse (Cases × Bool) := do
  if ← isAt "\x7d" then return (cases, false)
  else if ← isAtKeyword "case" then
    advance
    let test ← expression true
    expect ":"
    return ({ cases.close with current := some (some test, []) }, true)
  else if ← isAtKeyword "default" then
    advance
    expect ":"
    if cases.hasDefault then fail "duplicate default"
    return ({ cases.close with current := some (none, []), hasDefault := true }, true)
  else
    match cases.current with
    | none => fail "invalid switch statement"
    | some (test, body) =>
      let next ← Grammar.statement .all
      return ({ cases with current := some (test, next :: body) }, true)

/-- A choice between cases. -/
def switchStatement [Grammar] (label : Option Units) : Parse Stmt := do
  advance
  let value ← parenthesized
  let (cases, block) ← inBlock do
    expect "\x7b"
    let cases ← withTarget { label, loops := false, plain := true } (repeatWhile caseStep {})
    expect "\x7d"
    return cases
  return .switch value block.scope cases.close.found.reverse

/-- What a handler binds. -/
def caughtParameter [Grammar] : Parse (Option Expr) := do
  if ← isAt "\x7b" then return none
  else
    expect "("
    let found ← match ← token with
      | .identifier name _ reserved =>
        if reserved then fail "identifier expected"
        advance
        declare name .caught
        pure (Expr.name name)
      | .punctuator "[" | .punctuator "\x7b" => do
        pure (← Grammar.pattern (some (.lexical false)) false true).1
      | _ => fail "identifier expected"
    expect ")"
    return some found

/-- The names that a handler's parameter binds. -/
def Block.caughtNames (block : Block) : List Lexical :=
  block.names.reverse.map fun (name, _) => { name, constant := false }

/-- A statement with a handler. -/
def handled [Grammar] (body : Stmt) : Parse Stmt := do
  advance
  let ((parameter, handler), block) ← inBlock do
    let parameter ← caughtParameter
    return (parameter, ← blockStatement)
  return .tryCatch body parameter block.caughtNames handler

/-- A statement whose end is watched. -/
def tryStatement [Grammar] : Parse Stmt := do
  advance
  let body ← blockStatement
  let hasHandler ← isAtKeyword "catch"
  let body ← if hasHandler then handled body else pure body
  if ← isAtKeyword "finally" then
    advance
    return .tryFinally body (← blockStatement)
  else if hasHandler then return body
  else fail "expecting catch or finally"

/-- A statement whose names may be members of an object. -/
def withStatement [Grammar] : Parse Stmt := do
  if (← frame).strict then fail "invalid keyword: with"
  advance
  let object ← parenthesized
  return .with object (← Grammar.statement .none)

/-- An expression as a statement. -/
def expressionStatement [Grammar] : Parse Stmt := do
  let value ← expression true
  endStatement
  return .expression value

/-- A function declaration, if one may stand here. -/
def functionStatement [Grammar] (allowed : Allowed) : Parse Stmt := do
  let isAsync ← isAtWord "async"
  let star := (← peek).token.isPunctuator "*"
  if !allowed.functions || (!allowed.others && (isAsync || star)) then
    fail "function declarations can't appear in single-statement context"
  innerFunction

/-- A statement that a name begins. -/
def nameStatement [Grammar] (allowed : Allowed) (reserved : Bool) : Parse Stmt := do
  if reserved then reservedName
  else if ← isLet allowed then declarationStatement (.lexical false) allowed
  else if ← isAsyncFunction then functionStatement allowed
  else expressionStatement

/-- The label in front of a statement, if there is one. -/
def label? : Parse (Option Units) := do
  match ← token with
  | .identifier name _ reserved =>
    if reserved then return none
    else
      let next ← peek
      return if next.token.isPunctuator ":" then some name else none
  | _ => return none

/-- A statement that is not labeled; the label in front of it is that of a loop. -/
def unlabeled [Grammar] (allowed : Allowed) (label : Option Units) : Parse Stmt := do
  match ← token with
  | .punctuator "\x7b" => blockStatement
  | .punctuator ";" =>
    advance
    return .empty
  | .identifier _ _ reserved => nameStatement allowed reserved
  | .keyword word =>
    match word with
    | "return" => returnStatement
    | "throw" => throwStatement
    | "let" | "const" | "var" =>
      declarationStatement ((← declaration? allowed).getD .var) allowed
    | "if" => ifStatement
    | "while" => whileStatement label
    | "do" => doStatement label
    | "for" => forStatement label
    | "break" => jumpStatement false
    | "continue" => jumpStatement true
    | "switch" => switchStatement none
    | "try" => tryStatement
    | "with" => withStatement
    | "function" => functionStatement allowed
    | "class" => classStatement allowed
    | "debugger" =>
      advance
      endStatement
      return .empty
    | "enum" | "export" | "extends" => fail ("unsupported keyword: " ++ word)
    | _ => expressionStatement
  | _ => expressionStatement

/-- Whether the next token begins a loop. -/
def isLoop : Parse Bool := do
  return ["for", "do", "while"].any (← token).isKeyword

/-- A statement. -/
def statementProduction [Grammar] (allowed : Allowed) : Parse Stmt := do
  match ← label? with
  | none => unlabeled allowed none
  | some label =>
    if (← frame).targets.any (·.label == some label) then fail "duplicate label name"
    advance
    expect ":"
    if ← isLoop then return .labeled label (← unlabeled .none (some label))
    else
      let inner : Allowed :=
        if !(← frame).strict && (allowed = .labeled || allowed = .all) then .labeled else .none
      let body ← withTarget { label := some label, loops := false, plain := false }
        (Grammar.statement inner)
      return .labeled label body

end Scratchpad.Script.Parser
