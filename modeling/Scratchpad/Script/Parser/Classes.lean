import Scratchpad.Script.Parser.Functions

/-!
# Classes

Classes are strict throughout. A class without a constructor gets one, which hands its arguments to
the constructor of the parent if there is a parent.
-/
namespace Scratchpad.Script.Parser

open Scratchpad.Text (Units)

/-- What was read of the members of a class. -/
structure Members where
  /-- The members, latest first. -/
  found : List ClassMember := []
  constructor : Option Nat := none
  /-- The private names, each with the kind of its member and whether it is static. -/
  hidden : List (Units × MemberKind × Bool) := []

/-- Whether a member may have a private name that others have: a getter beside a setter. -/
def pairsWith (kind : MemberKind) (isStatic : Bool) (other : MemberKind × Bool) : Bool :=
  isStatic = other.2 &&
    ((kind = .getter && other.1 = .setter) || (kind = .setter && other.1 = .getter))

/-- The members with a private name declared. -/
def declareHidden (members : Members) (name : Units) (kind : MemberKind) (isStatic : Bool) :
    Parse Members := do
  if name == Units.ofString "constructor" then fail "invalid method name"
  let others := (members.hidden.filter (·.1 == name)).map (·.2)
  let fits := match others with
    | [] => true
    | [other] => pairsWith kind isStatic other
    | _ => false
  if fits then return { members with hidden := (name, kind, isStatic) :: members.hidden }
  else fail "private class field is already defined"

/-- The members with a private name declared, if a member has one. -/
def declareName (members : Members) (name : Expr) (kind : MemberKind) (isStatic : Bool) :
    Parse Members :=
  match name with
  | .hidden name => declareHidden members name kind isStatic
  | _ => return members

/-- The frame of an initial value or a static block. -/
def initializerFrame : Parse Frame := do
  return { Frame.ofHeading (← frame) { kind := .initializer, start := 0 } with inBody := true }

/-- The value of a field as a function. -/
def fieldValue [Grammar] (name : Units) : Parse Nat := do
  let inner ← initializerFrame
  let (value, frame) ← withFrame inner do
    let id ← enterBlock
    modifyFrame fun frame => { frame with bodyId := id }
    let value ← assignment true
    giveName name value
    return value
  addFunction (frame.function { kind := .initializer, start := 0 } .empty []
    [.return (some value)])

/-- A static block as a function, from its opening brace on. -/
def staticBlock [Grammar] : Parse Nat := do
  let inner ← initializerFrame
  let (body, frame) ← withFrame { inner with staticBlock := true } do
    let id ← enterBlock
    modifyFrame fun frame => { frame with bodyId := id }
    expect "\x7b"
    let body ← bodyStatements (isAt "\x7d")
    advance
    return body
  addFunction (frame.function { kind := .initializer, start := 0 } .empty [] body)

/-- The name that the value of a field gets, if it is plain. -/
def fieldName : Expr → Units
  | .text name => name
  | .hidden name => Units.ofString "#" ++ name
  | _ => .empty

/-- A field, from what follows its name on. -/
def field [Grammar] (members : Members) (name : Expr) (isStatic : Bool) : Parse Members := do
  match name with
  | .text text =>
    if text == Units.ofString "constructor" || text == Units.ofString "prototype" then
      fail "invalid field name"
  | _ => pure ()
  let members ← declareName members name .value isStatic
  let value ← if ← accept "=" then some <$> fieldValue (fieldName name) else pure none
  endStatement
  return { members with
    found := { isStatic, kind := .value, name, function := value, isBlock := false }
      :: members.found }

/-- A method, from its parameters on. -/
def method [Grammar] (members : Members) (member : MemberName) (isStatic hasParent : Bool)
    (start : Nat) : Parse Members := do
  let isConstructor := !isStatic && member.kind = .plain &&
    member.text? == some (Units.ofString "constructor")
  if isConstructor then
    if members.constructor.isSome then fail "property constructor appears more than once"
    let kind : FunctionKind := if hasParent then .derivedConstructor else .baseConstructor
    let place ← Grammar.functionRest { kind, start }
    return { members with constructor := some place }
  else
    let kind := methodKind member.kind
    let members ← declareName members member.name kind isStatic
    let place ← Grammar.functionRest (methodHeading member.kind start)
    return { members with
      found := { isStatic, kind, name := member.name, function := some place, isBlock := false }
        :: members.found }

/-- Whether the word `static` is next and stands in front of a member. -/
def isStaticPrefix : Parse Bool := do
  if ← isAtKeyword "static" then
    let next ← peek
    return next.newline || !([";", "\x7d", "(", "="].any next.token.isPunctuator)
  else return false

/-- Check that a member may have its name. -/
def checkMember (member : MemberName) (isStatic : Bool) : Parse Unit := do
  let isNamed (name : String) : Bool := member.text? == some (Units.ofString name)
  if (isNamed "constructor" && !isStatic && member.kind ≠ .plain) ||
      (isNamed "prototype" && isStatic) then
    fail "invalid method name"

/-- One member of a class. -/
def classMember [Grammar] (members : Members) (hasParent : Bool) : Parse Members := do
  let isStatic ← isStaticPrefix
  if isStatic then advance
  if isStatic && (← isAt "\x7b") then
    let place ← staticBlock
    return { members with
      found := { isStatic, kind := .value, name := .undefined, function := some place,
                 isBlock := true } :: members.found }
  else if isStatic && ((← isAt ";") || (← isAt "=")) then
    field members (.text (Units.ofString "static")) false
  else
    let start := (← get).current.start
    let member ← memberName true false true
    checkMember member isStatic
    if member.kind = .plain && !(← isAt "(") then field members member.name isStatic
    else method members member isStatic hasParent start

/-- The constructor of a class that has none of its own. -/
def defaultConstructor (hasParent : Bool) : Function :=
  let rest := Units.ofString "args"
  { name := .empty
    kind := if hasParent then .derivedConstructor else .baseConstructor
    asynchronous := false
    generator := false
    strict := true
    length := 0
    source := .empty
    parameters := if hasParent then [.spread (.name rest)] else []
    simple := !hasParent
    parameterNames := if hasParent then [rest] else []
    varNames := []
    scope := default
    selfName := none
    usesArguments := false
    body := if hasParent then [.expression (.superCall [.spread (.name rest)])] else [] }

/-- The name of a class, if one follows its keyword. -/
def className (isExpression : Bool) : Parse (Option Units) := do
  match ← token with
  | .identifier name _ reserved =>
    if reserved then reservedName
    advance
    return some name
  | _ => if isExpression then return none else fail "class statement requires a name"

/-- The members of a class in braces. -/
def classBody [Grammar] (hasParent : Bool) : Parse Members := do
  expect "\x7b"
  repeatWhile (fun members => do
    if ← isAt "\x7d" then return (members, false)
    else if ← accept ";" then return (members, true)
    else return (← classMember members hasParent, true)) {}

/-- A class, from its keyword on: its name and its place. -/
def classProduction [Grammar] (isExpression : Bool) : Parse (Units × Nat) := do
  let start := (← get).current.start
  let strict := (← frame).strict
  let uses := (← get).hiddenUses
  modify fun state => { state with hiddenUses := [] }
  modifyFrame fun frame => { frame with strict := true }
  advance
  let name ← className isExpression
  let _ ← enterBlock
  let parent ← if ← isAtKeyword "extends" then do
      advance
      some <$> Grammar.postfixed true
    else pure none
  match name with
  | some name => declare name (.lexical true)
  | none => pure ()
  let members ← classBody parent.isSome
  let stop := (← get).current.stop
  modifyFrame fun frame => { frame with strict }
  advance
  let _ ← leaveBlock
  let declared := members.hidden.map (·.1)
  modify fun state =>
    { state with hiddenUses := uses ++ state.hiddenUses.filter (!declared.contains ·) }
  let source := (← get).source.slice start stop
  let constructor ← match members.constructor with
    | some place => do
      modify fun state => { state with table := { state.table with
        functions := state.table.functions.modify place fun function =>
          { function with source } } }
      pure place
    | none => addFunction { defaultConstructor parent.isSome with source }
  let place ← addClass {
    name := name.getD .empty
    bound := name.isSome
    parent
    constructor
    members := members.found.reverse
    hiddenNames := declared.eraseDups }
  return (name.getD .empty, place)

end Scratchpad.Script.Parser
