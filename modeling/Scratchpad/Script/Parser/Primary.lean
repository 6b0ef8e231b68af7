import Scratchpad.Decimal.Places
import Scratchpad.Script.Parser.Grammar

/-!
# Operands

Literals, names, functions and everything else that an expression is built from, with the members
and calls behind it.
-/
namespace Scratchpad.Script.Parser

open Scratchpad.Text (Units)

/-! ## Names of members -/

/-- What the words in front of a member's name make of it. -/
inductive NameKind where
  | plain
  /-- A name that stands for the variable of that name too. -/
  | shorthand
  | getter
  | setter
  | generator
  | asynchronous
  | asynchronousGenerator
deriving DecidableEq, Inhabited

/-- The name of a member. -/
structure MemberName where
  kind : NameKind
  /-- A text, a hidden name, or an expression in brackets. -/
  name : Expr
deriving Inhabited

/-- The plain name of a member, if it has one. -/
def MemberName.text? (member : MemberName) : Option Units :=
  match member.name with
  | .text name => some name
  | _ => none

/-- Whether the next token ends a member's name, so that the word before it was the name. -/
def endsMemberName : Parse Bool := do
  let next ← token
  return [":", ",", "\x7d", "(", "="].any next.isPunctuator

/-- The kind of a member's name, and the name itself if a special word turned out to be it. -/
def memberPrefix : Parse (NameKind × Option Units) := do
  let next ← token
  if next.isWord "get" || next.isWord "set" then
    advance
    let word := Units.ofString (if next.isWord "get" then "get" else "set")
    if ← endsMemberName then return (.plain, some word)
    else return (if next.isWord "get" then .getter else .setter, none)
  else if ← accept "*" then return (.generator, none)
  else if next.isWord "async" && !(← peek).newline then
    advance
    if ← endsMemberName then return (.plain, some (Units.ofString "async"))
    else if ← accept "*" then return (.asynchronousGenerator, none)
    else return (.asynchronous, none)
  else return (.plain, none)

/-- The kind of a member whose name is a word: a shorthand if nothing follows that gives it a value
or a body. -/
def wordKind (kind : NameKind) (methods shorthands isName : Bool) : Parse NameKind := do
  let hasValue := (← isAt ":") || (methods && (← isAt "("))
  return if isName && kind = .plain && shorthands && !hasValue then .shorthand else kind

/-- Check that a name with a word in front of it is that of a method. -/
def checkMethodName (kind : NameKind) : Parse Unit := do
  if kind ≠ .plain && kind ≠ .shorthand && !(← isAt "(") then fail "invalid property name"

/-- The name of a member, in a literal with methods, with shorthands, or with hidden names. -/
def memberName [Grammar] (methods shorthands hidden : Bool) : Parse MemberName := do
  let (kind, word) ← if methods then memberPrefix else pure (.plain, none)
  let member : MemberName ← match word with
    | some word => do
      pure { kind := ← wordKind kind methods shorthands true, name := .text word }
    | none => do
      let next ← token
      match next with
      | .identifier name _ reserved =>
        advance
        pure { kind := ← wordKind kind methods shorthands (!reserved), name := .text name }
      | .keyword name =>
        advance
        pure { kind, name := .text (Units.ofString name) }
      | .text name =>
        advance
        pure { kind, name := .text name }
      | .number value =>
        advance
        pure { kind, name := .text (Units.ofString (Decimal.text value)) }
      | .bigint value =>
        advance
        pure { kind, name := .text (Units.ofString (toString value)) }
      | .hidden name =>
        if hidden then
          advance
          pure { kind, name := .hidden name }
        else fail "invalid property name"
      | .punctuator "[" =>
        advance
        let key ← expression true
        expect "]"
        pure { kind, name := key }
      | _ => fail "invalid property name"
  checkMethodName member.kind
  return member

/-! ## Lists -/

/-- An item of a list: a value, or a spread. -/
def item [Grammar] : Parse Expr := do
  if ← accept "..." then
    let inner ← assignment true
    return .spread inner
  else assignment true

/-- The arguments of a call, from the token after the opening parenthesis on. -/
def arguments [Grammar] : Parse (List Expr) := do
  let found ← repeatWhile (fun found => do
    if ← isAt ")" then return (found, false)
    else
      let next ← item
      if ← isAt ")" then return (next :: found, false)
      else
        expect ","
        return (next :: found, true)) []
  advance
  return found.reverse

/-- The items of an array, from the opening bracket on. -/
def arrayLiteral [Grammar] : Parse Expr := do
  advance
  let found ← repeatWhile (fun found => do
    if ← isAt "]" then return (found, false)
    else if ← accept "," then return (Expr.hole :: found, true)
    else
      let next ← item
      if ← isAt "]" then return (next :: found, false)
      else
        expect ","
        return (next :: found, true)) []
  advance
  return .array found.reverse

/-! ## Objects -/

/-- The heading of a method with a kind of name. -/
def methodHeading (kind : NameKind) (start : Nat) : Heading where
  kind := match kind with
    | .getter => .getter
    | .setter => .setter
    | _ => .method
  asynchronous := kind = .asynchronous || kind = .asynchronousGenerator
  generator := kind = .generator || kind = .asynchronousGenerator
  start := start

/-- The kind of the member that a method is. -/
def methodKind : NameKind → MemberKind
  | .getter => .getter
  | .setter => .setter
  | _ => .method

/-- The value of the member that a name begins; the flag says whether a prototype was set before. -/
def memberValue [Grammar] (member : MemberName) (start : Nat) (hasPrototype : Bool) :
    Parse Member := do
  if member.kind = .shorthand then
    let name := (member.text?).getD .empty
    if name == Units.ofString "arguments" then noteArguments
    return .mk .value member.name (.name name)
  else if ← isAt "(" then
    let place ← Grammar.functionRest (methodHeading member.kind start)
    return .mk (methodKind member.kind) member.name (.function place)
  else
    expect ":"
    let value ← assignment true
    match member.text? with
    | some name =>
      if name == Units.ofString "__proto__" then
        if hasPrototype then fail "duplicate __proto__ property name"
        else return .mk .prototype member.name value
      else
        giveName name value
        return .mk .value member.name value
    | none => return .mk .value member.name value

/-- Whether a member sets the prototype. -/
def Member.setsPrototype : Member → Bool
  | .mk kind _ _ => kind = .prototype

/-- The members of an object, from the opening brace on. -/
def objectLiteral [Grammar] : Parse Expr := do
  advance
  let found ← repeatWhile (fun (found : List Member) => do
    if ← isAt "\x7d" then return (found, false)
    else
      let start := (← get).current.start
      let next ← if ← accept "..." then do
          let inner ← assignment true
          pure (Member.mk .spread .undefined inner)
        else do
          let member ← memberName true true false
          memberValue member start (found.any Member.setsPrototype)
      let goesOn ← accept ","
      return (next :: found, goesOn)) []
  expect "\x7d"
  return .object found.reverse

/-! ## Templates -/

/-- The pieces of a template and the expressions between them. -/
structure Pieces where
  values : List (Option Units) := []
  raws : List Units := []
  parts : List Expr := []

/-- Read the piece of a template that the next token, a closing brace, continues. -/
def resumeTemplate : Parse Unit := do
  let state ← get
  match Lexer.template state.source (state.current.start + 1) with
  | .ok (token, stop) => set { state with current := { state.current with token, stop } }
  | .error message => fail message

/-- Read a template whose first piece is next. -/
def pieces [Grammar] (tagged : Bool) : Parse Pieces := do
  let found ← repeatWhile (fun (found : Pieces) => do
    match ← token with
    | .template value raw last =>
      if value.isNone && !tagged then fail "malformed escape sequence in string literal"
      let found := { found with values := value :: found.values, raws := raw :: found.raws }
      advance
      if last then return (found, false)
      else
        let part ← expression true
        if ← isAt "\x7d" then
          resumeTemplate
          return ({ found with parts := part :: found.parts }, true)
        else fail "expected '\x7d' after template expression"
    | _ => return (found, false)) {}
  return { values := found.values.reverse, raws := found.raws.reverse, parts := found.parts.reverse }

/-! ## Functions and classes -/

/-- Whether the next tokens are `async function` on one line. -/
def isAsyncFunction : Parse Bool := do
  if ← isAtWord "async" then
    let next ← peek
    return next.token.isKeyword "function" && !next.newline
  else return false

/-- What stands between the keyword of a function and its name. -/
def functionPrefix : Parse (Bool × Bool) := do
  let asynchronous ← isAtWord "async"
  if asynchronous then advance
  advance
  let generator ← accept "*"
  return (asynchronous, generator)

/-- A function expression, from its first word on. -/
def functionExpression [Grammar] : Parse Expr := do
  let start := (← get).current.start
  let strict := (← frame).strict
  let (asynchronous, generator) ← functionPrefix
  let name : Option Units ← match ← token with
    | .identifier name _ reserved =>
      let clashes := reserved || (generator && name == Units.ofString "yield") ||
        (asynchronous && name == Units.ofString "await")
      if clashes then reservedName
      else
        advance
        pure (some name)
    | .keyword word =>
      if (word == "yield" && !strict) || word == "await" then
        advance
        pure (some (Units.ofString word))
      else pure none
    | _ => pure none
  let place ← Grammar.functionRest
    { kind := .ordinary, asynchronous, generator, start
      name := name.getD .empty, selfName := name }
  return .function place

/-! ## Operands -/

/-- A name as an operand. -/
def nameOperand (name : Units) (reserved : Bool) : Parse Expr := do
  if reserved then reservedName
  else
    if name == Units.ofString "arguments" then
      if !(← frame).argumentsAllowed then
        fail "'arguments' identifier is not allowed in class field initializer"
      noteArguments
    advance
    return .name name

/-- The operand that `super` begins. -/
def superOperand [Grammar] : Parse Expr := do
  advance
  let frame ← frame
  if ← isAt "(" then
    if frame.superCallAllowed then
      advance
      return .superCall (← arguments)
    else fail "super() is only valid in a derived class constructor"
  else if (← isAt ".") || (← isAt "[") then
    if !frame.superAllowed then fail "'super' is only valid in a method"
    else if ← accept "." then
      match ← token with
      | .hidden _ => fail "private class field forbidden after super"
      | next =>
        match next.memberName? with
        | some name =>
          advance
          return .superMember (.text name)
        | none => fail "expecting field name"
    else
      advance
      let key ← expression true
      expect "]"
      return .superMember key
  else fail "invalid use of 'super'"

/-- The operand that `new` begins. -/
def newOperand [Grammar] : Parse Expr := do
  advance
  if ← accept "." then
    if ← isAtWord "target" then
      if (← frame).newTargetAllowed then
        advance
        return .newTarget
      else fail "new.target only allowed within functions"
    else fail "expecting target"
  else
    let callee ← Grammar.postfixed false
    if ← accept "(" then return .new callee (← arguments)
    else return .new callee []

/-- A regular expression, whose first slash is the next token. -/
def regexOperand : Parse Expr := do
  let state ← get
  match Lexer.regex state.source state.current.start with
  | .ok (token, stop) =>
    set { state with current := { state.current with token, stop } }
    advance
    match token with
    | .regex source => return .regex source
    | _ => return .undefined
  | .error message => fail message

/-- A constant operand, of which only the token is to be skipped. -/
def constant (value : Expr) : Parse Expr := do
  advance
  return value

/-- An operand without anything behind it. -/
def operand [Grammar] : Parse Expr := do
  match ← token with
  | .number value => constant (.number value)
  | .bigint value => constant (.bigint value)
  | .text value => constant (.text value)
  | .template .. =>
    let found ← pieces false
    return .template (found.values.map (·.getD .empty)) found.parts
  | .identifier name _ reserved =>
    if ← isAsyncFunction then functionExpression else nameOperand name reserved
  | .keyword "null" => constant .null
  | .keyword "true" => constant (.boolean true)
  | .keyword "false" => constant (.boolean false)
  | .keyword "this" => constant .this
  | .keyword "function" => functionExpression
  | .keyword "class" =>
    let (_, place) ← Grammar.classRest true
    return .class place
  | .keyword "new" => newOperand
  | .keyword "super" => superOperand
  | .keyword "import" =>
    advance
    if ← accept "." then fail "import.meta only valid in module code"
    else
      expect "("
      fail "import() is not supported"
  | .punctuator "(" =>
    let inner ← parenthesized
    match inner with
    | .name _ => return .grouped inner
    | _ => return inner
  | .punctuator "[" => arrayLiteral
  | .punctuator "\x7b" => objectLiteral
  | .punctuator "/" | .punctuator "/=" => regexOperand
  | _ => fail ("unexpected token in expression: '" ++ (← tokenText) ++ "'")

/-! ## Members and calls -/

/-- An operand with what was read behind it so far. -/
structure Chain where
  value : Expr
  /-- Whether a missing value ends it somewhere. -/
  optional : Bool := false

/-- The member behind a point. -/
def pointMember (object : Expr) : Parse Expr := do
  match ← token with
  | .hidden name =>
    noteHidden name
    advance
    return .privateMember object name
  | next =>
    match next.memberName? with
    | some name =>
      advance
      return .member object name
    | none => fail "expecting field name"

/-- The member in brackets. -/
def bracketMember [Grammar] (object : Expr) : Parse Expr := do
  expect "["
  let key ← expression true
  expect "]"
  return .index object key

/-- A call; one of `eval` may look at the arguments of the function around it. -/
def callOf [Grammar] (callee : Expr) : Parse Expr := do
  advance
  let found ← arguments
  match callee with
  | .name name => if name == Units.ofString "eval" then noteArguments
  | _ => pure ()
  return .call callee found

/-- Read one member or call behind an operand. -/
def chainStep [Grammar] (calls : Bool) (chain : Chain) : Parse (Chain × Bool) := do
  match ← token with
  | .punctuator "?." =>
    if !calls then fail "new keyword cannot be used with an optional chain"
    advance
    let object := Expr.optional chain.value
    let value ← if ← isAt "(" then callOf object
      else if ← isAt "[" then bracketMember object
      else pointMember object
    return ({ value, optional := true }, true)
  | .template .. =>
    if chain.optional then fail "template literal cannot appear in an optional chain"
    let found ← pieces true
    return ({ chain with value := .tagged chain.value found.values found.raws found.parts }, true)
  | .punctuator "(" =>
    if calls then return ({ chain with value := ← callOf chain.value }, true)
    else return (chain, false)
  | .punctuator "." =>
    advance
    return ({ chain with value := ← pointMember chain.value }, true)
  | .punctuator "[" => return ({ chain with value := ← bracketMember chain.value }, true)
  | _ => return (chain, false)

/-- An operand with the members and calls behind it. -/
def postfixExpression [Grammar] (calls : Bool) : Parse Expr := do
  let isNew ← isAtKeyword "new"
  let first ← operand
  let isNew := isNew && !(first matches .newTarget)
  let chain ← repeatWhile (chainStep (calls || isNew)) { value := first }
  return if chain.optional then .chain chain.value else chain.value

end Scratchpad.Script.Parser
