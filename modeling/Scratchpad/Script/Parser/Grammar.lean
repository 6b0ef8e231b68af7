import Scratchpad.Script.Parser.Names

/-!
# Productions inside productions

A production that may contain itself is read through a grammar: the productions as they are one
level further down. Every nesting uses up a level, so that reading ends whatever the source is.
-/
namespace Scratchpad.Script.Parser

open Scratchpad.Text (Units)

/-- What is known of a function before its parameters. -/
structure Heading where
  kind : FunctionKind
  asynchronous : Bool := false
  generator : Bool := false
  /-- The index at which its text begins. -/
  start : Nat
  name : Units := .empty
  /-- The name by which a function expression knows itself. -/
  selfName : Option Units := none
deriving Inhabited

/-- Which declarations a statement may be. -/
inductive Allowed where
  /-- None at all. -/
  | none
  /-- A function, as in the branch of a condition. -/
  | function
  /-- A function behind a label. -/
  | labeled
  | all
deriving DecidableEq

/-- Whether a function may be declared. -/
def Allowed.functions (allowed : Allowed) : Bool := allowed ≠ .none

/-- Whether anything may be declared. -/
def Allowed.others (allowed : Allowed) : Bool := allowed = .all

/-- What may follow a unary expression as an exponent. -/
inductive Power where
  | allowed
  | forbidden
  /-- The operand of an increment, after which an exponent is left to others. -/
  | ignored
deriving DecidableEq

/-- The productions one level further down. -/
class Grammar where
  /-- An expression without commas. -/
  assignment : (allowIn : Bool) → Parse Expr
  /-- An operand with the operators in front of it. -/
  unary : Power → Parse Expr
  /-- An operand with the members and calls behind it. -/
  postfixed : (calls : Bool) → Parse Expr
  /-- A pattern that declares names, or assigns to targets if no kind is given. -/
  pattern : Option DeclarationKind → (isParameter initialized : Bool) → Parse (Expr × Option Expr)
  /-- The parameters and the body of a function. -/
  functionRest : Heading → Parse Nat
  /-- A class, from its keyword on: its name and its place. -/
  classRest : (isExpression : Bool) → Parse (Units × Nat)
  statement : Allowed → Parse Stmt

export Grammar (assignment)

/-- Repeat a step for as long as it asks for it, at most `fuel` times. -/
def repeatStep {α : Type} (step : α → Parse (α × Bool)) : Nat → α → Parse α
  | 0, value => return value
  | fuel + 1, value => do
    let (value, goesOn) ← step value
    if goesOn then repeatStep step fuel value else return value

/-- Repeat a step that takes at least one token whenever it asks to go on. -/
def repeatWhile {α : Type} (step : α → Parse (α × Bool)) (first : α) : Parse α := do
  let state ← get
  repeatStep step (state.source.size + 2) first

/-- An expression with commas. -/
def expression [Grammar] (allowIn : Bool) : Parse Expr := do
  let first ← assignment allowIn
  repeatWhile (fun left => do
    if ← accept "," then
      let right ← assignment allowIn
      return (.sequence left right, true)
    else return (left, false)) first

/-- An expression in parentheses. -/
def parenthesized [Grammar] : Parse Expr := do
  expect "("
  let inner ← expression true
  expect ")"
  return inner

end Scratchpad.Script.Parser
