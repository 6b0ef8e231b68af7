import Scratchpad.Script.Parser.State

/-!
# Declared names

What may be declared where. A lexical name stands once in its block and hides nothing that the same
block or a handler around it binds; a variable may be declared again and again, but not where a
lexical name is in the way; sloppy code may declare a function of a block twice.
-/
namespace Scratchpad.Script.Parser

open Scratchpad.Text (Units)

/-- How a name is to be declared. -/
inductive Declaration where
  | var
  | lexical (constant : Bool)
  | function
  | newFunction
  | caught
deriving DecidableEq

/-- Enter a new block: its number. -/
def enterBlock : Parse Nat := do
  let id := (← get).nextBlock
  modify fun state => { state with nextBlock := id + 1 }
  modifyFrame fun frame => { frame with blocks := { id } :: frame.blocks }
  return id

/-- Leave the innermost block. -/
def leaveBlock : Parse Block := do
  let block := (← frame).blocks.headD default
  modifyFrame fun frame => { frame with blocks := frame.blocks.tail }
  return block

/-- The lexical names that a block declares. -/
def Block.lexicals (block : Block) : List Lexical :=
  block.names.reverse.filterMap fun (name, declared) =>
    match declared with
    | .lexical constant => some { name, constant }
    | _ => none

/-- What a block declares. -/
def Block.scope (block : Block) : Scope where
  lexicals := block.lexicals
  functions := block.functions.reverse

/-- The blocks around, innermost first, from the one that declares a name lexically, or as the
parameter of a handler if that counts. -/
def findLexical (name : Units) (caught : Bool) : List Block → Option (Nat × Declared)
  | [] => none
  | block :: rest =>
    match block.names.find? fun (found, declared) =>
      found == name && (caught || declared ≠ .caught) with
    | some (_, declared) => some (0, declared)
    | none => (findLexical name caught rest).map fun (depth, declared) => (depth + 1, declared)

/-- Whether a variable of a name was declared inside the innermost block. -/
def hasInnerVariable (frame : Frame) (name : Units) : Bool :=
  match frame.blocks with
  | block :: _ =>
    frame.varNames.any fun (found, around) => found == name && around.contains block.id
  | [] => false

/-- The message for a lexical name that is in the way. -/
def lexicalClash : String := "invalid redefinition of lexical identifier"

/-- Why a lexical name cannot be declared, if it cannot. -/
def lexicalFault (frame : Frame) (name : Units) (declaration : Declaration) : Option String :=
  let inBody := (frame.blocks.head?.map Block.id) = some frame.bodyId
  let clashes : Bool := match findLexical name true frame.blocks with
    | some (0, declared) =>
      frame.strict || declaration ≠ .function || declared ≠ .function
    | some (1, .caught) => true
    | _ => false
  let isFunction := declaration = .function || declaration = .newFunction
  if clashes then some lexicalClash
  else if !isFunction && inBody && frame.plainNames.contains name then
    some "invalid redefinition of parameter name"
  else if hasInnerVariable frame name then
    some (if frame.isProgram && !frame.strict then "invalid redefinition of global identifier"
      else "invalid redefinition of a variable")
  else none

/-- Declare a name in the innermost block. -/
def addName (name : Units) (declared : Declared) : Parse Unit :=
  modifyFrame fun frame =>
    match frame.blocks with
    | block :: rest =>
      { frame with blocks := { block with names := (name, declared) :: block.names } :: rest }
    | [] => frame

/-- Declare a variable of the innermost function. -/
def addVariable (name : Units) : Parse Unit :=
  modifyFrame fun frame =>
    { frame with varNames := (name, frame.blocks.map Block.id) :: frame.varNames }

/-- Whether a name is one that strict code may not bind. -/
def isRestricted (name : Units) : Bool :=
  name == Units.ofString "eval" || name == Units.ofString "arguments"

/-- Declare a name. -/
def declare (name : Units) (declaration : Declaration) : Parse Unit := do
  let frame ← frame
  match declaration with
  | .var =>
    if (findLexical name false frame.blocks).isSome then fail lexicalClash
    else addVariable name
  | .caught => addName name .caught
  | _ =>
    match lexicalFault frame name declaration with
    | some message => fail message
    | none =>
      addName name (match declaration with
        | .lexical constant => .lexical constant
        | .function => .function
        | _ => .newFunction)

/-- How a declaration by a keyword declares its names. -/
def DeclarationKind.declaration : DeclarationKind → Declaration
  | .var => .var
  | .lexical constant => .lexical constant

/-- Declare a name that a statement or a pattern binds. -/
def bind (name : Units) (kind : DeclarationKind) : Parse Unit := do
  if (← frame).strict && isRestricted name then fail "invalid variable name in strict mode"
  else if kind ≠ .var && name == Units.ofString "let" then
    fail "invalid lexical variable name"
  else declare name (DeclarationKind.declaration kind)

/-- Add a function to the innermost block. -/
def addBlockFunction (name : Units) (place : Nat) : Parse Unit :=
  modifyFrame fun frame =>
    match frame.blocks with
    | block :: rest =>
      { frame with
        blocks := { block with functions := (name, place) :: block.functions } :: rest }
    | [] => frame

/-- Note that `arguments` is used: it belongs to the nearest function that is no arrow. -/
def noteArguments : Parse Unit :=
  modify fun state =>
    let arrows := state.frames.takeWhile (·.kind = .arrow)
    let rest := match state.frames.drop arrows.length with
      | frame :: rest => { frame with usesArguments := true } :: rest
      | [] => []
    { state with frames := arrows ++ rest }

/-- Note that a private name is used; some class around has to declare it. -/
def noteHidden (name : Units) : Parse Unit :=
  modify fun state => { state with hiddenUses := name :: state.hiddenUses }

/-! ## Jumps -/

/-- Read a statement that a jump can leave. -/
def withTarget {α : Type} (target : Target) (step : Parse α) : Parse α := do
  modifyFrame fun frame => { frame with targets := target :: frame.targets }
  let result ← step
  modifyFrame fun frame => { frame with targets := frame.targets.tail }
  return result

/-- Whether a jump leaves a statement. -/
def Target.isLeft (target : Target) (label : Option Units) (continues : Bool) : Bool :=
  match label with
  | some label => target.label = some label && (!continues || target.loops)
  | none => if continues then target.loops else target.plain

/-- Check that a jump has somewhere to go. -/
def checkJump (label : Option Units) (continues : Bool) : Parse Unit := do
  if (← frame).targets.any (·.isLeft label continues) then return ()
  else if label.isSome then fail "break/continue label not found"
  else if continues then fail "continue must be inside loop"
  else fail "break must be inside loop or switch"

end Scratchpad.Script.Parser
