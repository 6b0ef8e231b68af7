import Scratchpad.Script.Parser.Operators

/-!
# Patterns

The two forms in which several names or targets take parts of one value.
-/
namespace Scratchpad.Script.Parser

open Scratchpad.Text (Units)

/-- Note a name that a parameter binds, which no other part of the same parameters may bind. -/
def noteParameter (name : Units) : Parse Unit := do
  if (← frame).parameterNames.contains name then
    fail "duplicate parameter names not allowed in this context"
  else
    modifyFrame fun frame => { frame with parameterNames := frame.parameterNames ++ [name] }

/-- The name that a pattern binds. -/
def patternName (kind : DeclarationKind) (isParameter : Bool) : Parse Expr := do
  match ← token with
  | .identifier name _ reserved =>
    if reserved || ((← frame).strict && isRestricted name) then fail "invalid destructuring target"
    else
      if isParameter then noteParameter name
      advance
      bind name kind
      return .name name
  | _ => fail "invalid destructuring target"

/-- A name to bind, or a target to assign to. -/
def patternTarget [Grammar] (kind : Option DeclarationKind) (isParameter : Bool) : Parse Expr := do
  match kind with
  | some kind => patternName kind isParameter
  | none => asTarget .pattern (← Grammar.postfixed true)

/-- A target with the initial value behind it, if there is one. -/
def withInitial [Grammar] (target : Expr) : Parse Expr := do
  if ← accept "=" then
    let initial ← assignment true
    match target with
    | .name name => giveName name initial
    | _ => pure ()
    return .withDefault target initial
  else return target

/-- Whether the next token begins a pattern that ends before one of some punctuators. -/
def beginsPattern (followers : List String) : Parse Bool := do
  if (← isAt "[") || (← isAt "\x7b") then
    let skipped ← skipBrackets
    return followers.any skipped.follower.isPunctuator
  else return false

/-- A pattern inside a pattern, with its initial value. -/
def innerPattern [Grammar] (kind : Option DeclarationKind) (isParameter : Bool) : Parse Expr := do
  let (inner, initial) ← Grammar.pattern kind isParameter true
  return match initial with
    | some initial => .withDefault inner initial
    | none => inner

/-- The value of a member of an object pattern. -/
def memberTarget [Grammar] (kind : Option DeclarationKind) (isParameter : Bool) : Parse Expr := do
  if ← beginsPattern [",", "=", "\x7d"] then innerPattern kind isParameter
  else withInitial (← patternTarget kind isParameter)

/-- A member whose name is the name that it binds. -/
def shorthandTarget [Grammar] (kind : Option DeclarationKind) (isParameter : Bool) (name : Units) :
    Parse Expr := do
  if isParameter then noteParameter name
  if (← frame).strict && isRestricted name then fail "invalid destructuring target"
  match kind with
  | some kind => bind name kind
  | none => pure ()
  withInitial (.name name)

/-- A member of an object pattern. -/
def patternMember [Grammar] (kind : Option DeclarationKind) (isParameter : Bool) :
    Parse Member := do
  let member ← memberName false true false
  match member.kind, member.text? with
  | .shorthand, some name =>
    return .mk .value member.name (← shorthandTarget kind isParameter name)
  | _, _ =>
    advance
    return .mk .value member.name (← memberTarget kind isParameter)

/-- The members of an object pattern, from the opening brace on. -/
def objectPattern [Grammar] (kind : Option DeclarationKind) (isParameter : Bool) : Parse Expr := do
  advance
  let found ← repeatWhile (fun (found : List Member) => do
    if ← isAt "\x7d" then return (found, false)
    else if ← accept "..." then
      let target ← patternTarget kind isParameter
      if ← isAt "\x7d" then return (.mk .spread .undefined target :: found, false)
      else fail "assignment rest property must be last"
    else
      let next ← patternMember kind isParameter
      if ← isAt "\x7d" then return (next :: found, false)
      else
        expect ","
        return (next :: found, true)) []
  advance
  return .objectPattern found.reverse

/-- An item of an array pattern that is no hole. -/
def patternItem [Grammar] (kind : Option DeclarationKind) (isParameter : Bool) : Parse Expr := do
  let isRest ← accept "..."
  if ← beginsPattern [",", "=", "]"] then
    let inner ← innerPattern kind isParameter
    if isRest then
      match inner with
      | .withDefault .. => fail "rest element cannot have a default value"
      | _ => return .spread inner
    else return inner
  else
    let target ← patternTarget kind isParameter
    if isRest then return .spread target else withInitial target

/-- Whether an item of an array pattern takes all that is left. -/
def Expr.isSpread : Expr → Bool
  | .spread _ => true
  | _ => false

/-- The items of an array pattern, from the opening bracket on. -/
def arrayPattern [Grammar] (kind : Option DeclarationKind) (isParameter : Bool) : Parse Expr := do
  advance
  let found ← repeatWhile (fun (found : List Expr) => do
    if ← isAt "]" then return (found, false)
    else if ← accept "," then return (Expr.hole :: found, true)
    else
      let next ← patternItem kind isParameter
      if ← isAt "]" then return (next :: found, false)
      else
        if Expr.isSpread next then fail "rest element must be the last one"
        expect ","
        return (next :: found, true)) []
  advance
  return .arrayPattern found.reverse

/-- A pattern with the value behind it, if it may have one. -/
def patternProduction [Grammar] (kind : Option DeclarationKind) (isParameter initialized : Bool) :
    Parse (Expr × Option Expr) := do
  let pattern ← if ← isAt "\x7b" then objectPattern kind isParameter
    else if ← isAt "[" then arrayPattern kind isParameter
    else fail "invalid assignment syntax"
  if initialized && (← isAt "=") then
    advance
    return (pattern, some (← assignment true))
  else return (pattern, none)

end Scratchpad.Script.Parser
