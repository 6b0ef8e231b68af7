import Scratchpad.Script.Parser.Statements

/-!
# Programs

The productions tied together, and whole programs read with them.
-/
namespace Scratchpad.Script.Parser

open Scratchpad.Text (Units)

/-- The message for source that is nested too deeply. -/
def tooDeep : String := "stack overflow"

/-- The grammar at a depth: every production one level further down has one level less. -/
@[reducible]
def grammar : Nat → Grammar
  | 0 =>
    { assignment := fun _ => fail tooDeep
      unary := fun _ => fail tooDeep
      postfixed := fun _ => fail tooDeep
      pattern := fun _ _ _ => fail tooDeep
      functionRest := fun _ => fail tooDeep
      classRest := fun _ => fail tooDeep
      statement := fun _ => fail tooDeep }
  | depth + 1 =>
    { assignment := fun allowIn => @assignmentExpression (grammar depth) allowIn
      unary := fun power => @unaryExpression (grammar depth) power
      postfixed := fun calls => @postfixExpression (grammar depth) calls
      pattern := fun kind isParameter initialized =>
        @patternProduction (grammar depth) kind isParameter initialized
      functionRest := fun heading => @functionProduction (grammar depth) heading
      classRest := fun isExpression => @classProduction (grammar depth) isExpression
      statement := fun allowed => @statementProduction (grammar depth) allowed }

/-- How deeply source may be nested. -/
def maxDepth : Nat := 1500

/-- What a program may contain because of the function that evaluates it. -/
structure Permissions where
  strict : Bool := false
  newTarget : Bool := false
  superCall : Bool := false
  superMember : Bool := false
  /-- Whether `arguments` may be named. -/
  arguments : Bool := true
deriving Inhabited

/-- The frame of a program. -/
def Permissions.frame (permissions : Permissions) : Frame where
  kind := .ordinary
  isProgram := true
  strict := permissions.strict
  inBody := true
  newTargetAllowed := permissions.newTarget
  superCallAllowed := permissions.superCall
  superAllowed := permissions.superMember
  argumentsAllowed := permissions.arguments

/-- The statements of a program up to the end of its source. -/
def programBody : Parse Program := do
  let _ : Grammar := grammar maxDepth
  let id ← enterBlock
  modifyFrame fun frame => { frame with bodyId := id }
  scanAt 0
  directives
  let body ← bodyStatements (return (← token) matches .finish)
  match (← get).hiddenUses.getLast? with
  | some name => fail ("undefined private field '#" ++ name.lossy ++ "'")
  | none => pure ()
  let frame ← frame
  return {
    strict := frame.strict
    varNames := frame.variableNames
    scope := (frame.blocks.headD default).scope
    body }

/-- A text cut after a number of bytes, at the end of a character. -/
def cutBytes (limit : Nat) (text : String) : String :=
  String.ofList (text.toList.foldl (fun (kept : List Char × Nat) c =>
    let size := kept.2 + c.utf8Size
    (if size ≤ limit then c :: kept.1 else kept.1, size)) ([], 0)).1.reverse

/-- The program that source is, and the table with its functions and classes; or why it is none. -/
def program (permissions : Permissions) (table : Table) (source : Units) :
    Except String (Program × Table) :=
  let state : State := {
    source
    current := { token := .finish, start := 0, stop := 0, newline := false }
    frames := [permissions.frame]
    table }
  match programBody.run state with
  | .ok found state => .ok (found, state.table)
  | .error message _ => .error (cutBytes maxMessageBytes message)

end Scratchpad.Script.Parser
