import Scratchpad.Script.Parser.Primary

/-!
# Operators

Expressions above their operands, from the operators in front of one to assignments.
-/
namespace Scratchpad.Script.Parser

open Scratchpad.Text (Units)

/-! ## Targets -/

/-- What a target is needed for. -/
inductive TargetUse where
  | assignment
  | increment
  | loop
  | pattern
deriving DecidableEq

/-- The message for something that is no target. -/
def TargetUse.message : TargetUse → String
  | .assignment => "invalid assignment left-hand side"
  | .increment => "invalid increment/decrement operand"
  | .loop => "invalid for in/of left hand-side"
  | .pattern => "invalid destructuring target"

/-- The target that an expression is. -/
def asTarget (use : TargetUse) (value : Expr) : Parse Expr := do
  match value with
  | .name name | .grouped (.name name) =>
    if (← frame).strict && isRestricted name then fail "invalid lvalue in strict mode"
    else return .name name
  | .member .. | .index .. | .privateMember .. | .superMember .. => return value
  | _ => fail use.message

/-! ## Operators in front of an operand -/

/-- The operator that a punctuator in front of an operand is. -/
def unaryOp? : Token → Option UnaryOp
  | .punctuator "+" => some .plus
  | .punctuator "-" => some .minus
  | .punctuator "!" => some .not
  | .punctuator "~" => some .complement
  | .keyword "void" => some .discard
  | .keyword "typeof" => some .typeName
  | _ => none

/-- Whether the next token is an increment; the flag says whether it adds. -/
def increment? : Token → Option Bool
  | .punctuator "++" => some true
  | .punctuator "--" => some false
  | _ => none

/-- The operand that `delete` begins. -/
def deleteOperand [Grammar] : Parse Expr := do
  advance
  let inner ← Grammar.unary .forbidden
  match inner with
  | .name _ | .grouped (.name _) =>
    if (← frame).strict then fail "cannot delete a direct reference in strict mode"
  | .privateMember .. => fail "cannot delete a private class field"
  | _ => pure ()
  return .delete inner

/-- The operand that `await` begins. -/
def awaitOperand [Grammar] : Parse Expr := do
  let frame ← frame
  if !frame.asynchronous then fail "unexpected 'await' keyword"
  if !frame.inBody then fail "await in default expression"
  advance
  return .await (← Grammar.unary .forbidden)

/-- An operand with an increment behind it, if there is one on the same line. -/
def incremented [Grammar] : Parse Expr := do
  let value ← postfixExpression true
  match increment? (← token) with
  | some adds =>
    if ← atNewline then return value
    else
      let target ← asTarget .increment value
      advance
      return .update adds true target
  | none => return value

/-- An operand with the operators in front of it, and the rule for an exponent behind it. -/
def prefixed [Grammar] (power : Power) : Parse (Expr × Power) := do
  let next ← token
  match unaryOp? next with
  | some op =>
    advance
    return (.unary op (← Grammar.unary .forbidden), .ignored)
  | none =>
    match increment? next with
    | some adds =>
      advance
      let target ← asTarget .increment (← Grammar.unary .ignored)
      return (.update adds false target, power)
    | none =>
      if next.isKeyword "delete" then return (← deleteOperand, .ignored)
      else if next.isKeyword "await" then return (← awaitOperand, .ignored)
      else return (← incremented, power)

/-- An operand with the operators in front of it and the exponent behind it. -/
def unaryExpression [Grammar] (power : Power) : Parse Expr := do
  let (value, power) ← prefixed power
  if power ≠ .ignored && (← isAt "**") then
    if power = .forbidden then
      fail "unparenthesized unary expression can't appear on the left-hand side of '**'"
    else
      advance
      return .binary .pow value (← Grammar.unary .allowed)
  else return value

/-! ## Operators between operands -/

/-- The binary operator that a token is, and how strongly it binds. -/
def binaryOp? (allowIn : Bool) : Token → Option (BinaryOp × Nat)
  | .punctuator text =>
    match text with
    | "*" => some (.mul, 8)
    | "/" => some (.div, 8)
    | "%" => some (.rem, 8)
    | "+" => some (.add, 7)
    | "-" => some (.sub, 7)
    | "<<" => some (.shiftLeft, 6)
    | ">>" => some (.shiftRight, 6)
    | ">>>" => some (.shiftRightZero, 6)
    | "<" => some (.less, 5)
    | ">" => some (.greater, 5)
    | "<=" => some (.lessEq, 5)
    | ">=" => some (.greaterEq, 5)
    | "==" => some (.looseEq, 4)
    | "!=" => some (.looseNe, 4)
    | "===" => some (.strictEq, 4)
    | "!==" => some (.strictNe, 4)
    | "&" => some (.bitAnd, 3)
    | "^" => some (.bitXor, 2)
    | "|" => some (.bitOr, 1)
    | _ => none
  | .keyword "instanceof" => some (.isInstance, 5)
  | .keyword "in" => if allowIn then some (.hasProperty, 5) else none
  | _ => none

/-- How strongly the weakest binary operator binds. -/
def weakest : Nat := 1

/-- How strongly a comparison binds. -/
def comparison : Nat := 5

/-- How strongly the strongest binary operator binds. -/
def strongest : Nat := 8

/-- Operands between operators that bind at least as strongly as `minimum`. -/
def binaryFrom [Grammar] (allowIn : Bool) : Nat → Nat → Parse Expr
  | 0, _ => unaryExpression .allowed
  | fuel + 1, minimum => do
    let hiddenTest : Option Units ← match ← token with
      | .hidden name => do
        pure (if allowIn && minimum ≤ comparison && (← peek).token.isKeyword "in"
          then some name else none)
      | _ => pure none
    let first ← match hiddenTest with
      | some name => do
        noteHidden name
        advance
        advance
        pure (Expr.privateIn name (← binaryFrom allowIn fuel (comparison + 1)))
      | none => unaryExpression .allowed
    repeatWhile (fun left => do
      match binaryOp? allowIn (← token) with
      | some (op, strength) =>
        if strength < minimum then return (left, false)
        else
          advance
          let right ← binaryFrom allowIn fuel (strength + 1)
          return (.binary op left right, true)
      | none => return (left, false)) first

/-- Operands between binary operators. -/
def binary [Grammar] (allowIn : Bool) : Parse Expr := binaryFrom allowIn (strongest + 1) weakest

/-- Operands between a logical operator, none of which may be followed by the one for missing
values. -/
def logicalOf (op : LogicalOp) (text : String) (inner : Parse Expr) : Parse Expr := do
  let first ← inner
  repeatWhile (fun left => do
    if ← accept text then
      let right ← inner
      if !(← isAt text) && (← isAt "??") then fail "cannot mix ?? with && or ||"
      return (.logical op left right, true)
    else return (left, false)) first

/-- Operands between logical operators. -/
def logical [Grammar] (allowIn : Bool) : Parse Expr := do
  let first ← logicalOf .or "||" (logicalOf .and "&&" (binary allowIn))
  repeatWhile (fun left => do
    if ← accept "??" then return (.logical .coalesce left (← binary allowIn), true)
    else return (left, false)) first

/-- An expression with a condition. -/
def conditional [Grammar] (allowIn : Bool) : Parse Expr := do
  let test ← logical allowIn
  if ← accept "?" then
    let consequent ← assignment true
    expect ":"
    let alternate ← assignment allowIn
    return .conditional test consequent alternate
  else return test

/-! ## Assignments -/

/-- What an assignment operator does. -/
inductive Assigning where
  | plain
  | compound (op : BinaryOp)
  | logical (op : LogicalOp)

/-- The assignment operator that a token is. -/
def assigning? : Token → Option Assigning
  | .punctuator text =>
    match text with
    | "=" => some .plain
    | "+=" => some (.compound .add)
    | "-=" => some (.compound .sub)
    | "*=" => some (.compound .mul)
    | "/=" => some (.compound .div)
    | "%=" => some (.compound .rem)
    | "**=" => some (.compound .pow)
    | "<<=" => some (.compound .shiftLeft)
    | ">>=" => some (.compound .shiftRight)
    | ">>>=" => some (.compound .shiftRightZero)
    | "&=" => some (.compound .bitAnd)
    | "|=" => some (.compound .bitOr)
    | "^=" => some (.compound .bitXor)
    | "&&=" => some (.logical .and)
    | "||=" => some (.logical .or)
    | "??=" => some (.logical .coalesce)
    | _ => none
  | _ => none

/-- The arrow function that begins with the next token, if one does. -/
def arrow? : Parse (Option Heading) := do
  let start := (← get).current.start
  let next ← token
  if next.isPunctuator "(" then
    let skipped ← skipBrackets
    return if skipped.follower.isPunctuator "=>" && !skipped.newline then
      some { kind := .arrow, start } else none
  else
    match next with
    | .identifier .. =>
      let follower ← peek
      if next.isWord "async" && !follower.newline && !follower.token.isKeyword "function" then
        let isArrow ← lookAhead do
          advance
          if ← isAt "(" then
            let skipped ← skipBrackets
            return skipped.follower.isPunctuator "=>" && !skipped.newline
          else if (← token).isName then peekIs "=>"
          else return false
        if isArrow then
          advance
          return some { kind := .arrow, asynchronous := true, start }
      if follower.token.isPunctuator "=>" && !follower.newline then
        return some { kind := .arrow, start }
      else return none
    | _ => return none

/-- The operand that `yield` begins. -/
def yieldOperand [Grammar] (allowIn : Bool) : Parse Expr := do
  let frame ← frame
  if !frame.generator then fail "unexpected 'yield' keyword"
  if !frame.inBody then fail "yield in default expression"
  advance
  let star ← if ← atNewline then pure false else accept "*"
  let ends := [")", "]", "\x7d", ",", ";", ":"].any (← token).isPunctuator ||
    ((← token) matches .finish)
  if !star && (ends || (← atNewline)) then return .yield .undefined
  else return .yield (← assignment allowIn)

/-- An assignment to the expression read before it, if an operator follows. -/
def assignTo [Grammar] (allowIn : Bool) (left : Expr) : Parse Expr := do
  match assigning? (← token) with
  | none => return left
  | some assigning =>
    advance
    let target ← asTarget .assignment left
    let value ← assignment allowIn
    let lend : Parse Unit :=
      match left with
      | .name name => giveName name value
      | _ => return ()
    match assigning with
    | .plain =>
      lend
      return .assign target value
    | .compound op => return .compound op target value
    | .logical op =>
      lend
      return .logicalAssign op target value

/-- An expression without commas. -/
def assignmentExpression [Grammar] (allowIn : Bool) : Parse Expr := do
  if ← isAtKeyword "yield" then yieldOperand allowIn
  else
    match ← arrow? with
    | some heading => return .function (← Grammar.functionRest heading)
    | none =>
      let isPattern ← if (← isAt "[") || (← isAt "\x7b") then do
          let skipped ← skipBrackets
          pure (skipped.follower.isPunctuator "=")
        else pure false
      if isPattern then
        let (pattern, value) ← Grammar.pattern none false true
        return .destructure pattern (value.getD .undefined)
      else assignTo allowIn (← conditional allowIn)

end Scratchpad.Script.Parser
