import Scratchpad.Script.Lexer
import Scratchpad.Script.Syntax

/-!
# The state of a parser

A parser reads one token ahead. Beside the source it keeps the functions that it is inside of, each
with its blocks and the names that they declare, and the table of the functions and classes that it
has finished.
-/
namespace Scratchpad.Script.Parser

open Scratchpad.Text (Units)

/-- How a name was declared in a block. -/
inductive Declared where
  /-- By `let`, `const` or `class`. -/
  | lexical (constant : Bool)
  /-- By a function that sloppy code may declare twice. -/
  | function
  /-- By any other function. -/
  | newFunction
  /-- As the parameter of a handler. -/
  | caught
deriving DecidableEq, Repr

/-- A block that is being read. -/
structure Block where
  /-- A number that no other block has. -/
  id : Nat
  /-- The names declared so far, latest first. -/
  names : List (Units × Declared) := []
  /-- The functions declared so far, latest first. -/
  functions : List (Units × Nat) := []
deriving Inhabited

/-- A statement that can be left by a jump. -/
structure Target where
  label : Option Units
  /-- Whether it is a loop. -/
  loops : Bool
  /-- Whether a jump without a label can leave it. -/
  plain : Bool
deriving Inhabited

/-- A function that is being read, or the whole program. -/
structure Frame where
  kind : FunctionKind
  /-- Whether it is a program and not a function. -/
  isProgram : Bool
  asynchronous : Bool := false
  generator : Bool := false
  strict : Bool
  /-- Whether its own directive made it strict. -/
  directive : Bool := false
  /-- Whether its parameters are behind. -/
  inBody : Bool := false
  /-- Whether every parameter so far is a plain name. -/
  simple : Bool := true
  /-- Whether a parameter has an initial value. -/
  hasInitials : Bool := false
  /-- The plain parameters, in order. -/
  plainNames : List Units := []
  /-- Every name that the parameters bind. -/
  parameterNames : List Units := []
  /-- The blocks around, innermost first. -/
  blocks : List Block := []
  /-- The block of the body. -/
  bodyId : Nat := 0
  /-- The names declared by `var`, each with the blocks that were around it. -/
  varNames : List (Units × List Nat) := []
  /-- The statements around that can be left, innermost first. -/
  targets : List Target := []
  newTargetAllowed : Bool
  superCallAllowed : Bool
  superAllowed : Bool
  argumentsAllowed : Bool
  usesArguments : Bool := false
  /-- Whether it is a static block of a class. -/
  staticBlock : Bool := false
deriving Inhabited

/-- The state of a parser. -/
structure State where
  source : Units
  /-- The token that is read next. -/
  current : Scanned
  /-- The index after the token before. -/
  lastStop : Nat := 0
  /-- The functions around, innermost first. -/
  frames : List Frame
  table : Table
  /-- The number of the next block. -/
  nextBlock : Nat := 1
  /-- The private names that were used and not declared so far by a class around. -/
  hiddenUses : List Units := []
deriving Inhabited

/-- A step of a parser. -/
abbrev Parse := EStateM String State

namespace State

/-- The innermost function. -/
def frame (state : State) : Frame := state.frames.headD default

/-- Whether an arrow function's parameters, which are still being read, belong to a function with a
property. -/
def arrowInherits (state : State) (property : Frame → Bool) : Bool :=
  state.frame.kind = .arrow && !state.frame.inBody && (state.frames.tail.head?.any property)

/-- How the next token is read. -/
def mode (state : State) : Mode :=
  let awaits (frame : Frame) : Bool := frame.asynchronous || frame.staticBlock
  { strict := state.frame.strict
    yields := state.frame.generator || state.arrowInherits (·.generator)
    awaits := awaits state.frame || state.arrowInherits awaits }

end State

/-- Stop with a message. -/
def fail {α : Type} (message : String) : Parse α := throw message

/-- The next token. -/
def token : Parse Token := return (← get).current.token

/-- Whether a line ended before the next token. -/
def atNewline : Parse Bool := return (← get).current.newline

/-- The innermost function. -/
def frame : Parse Frame := return (← get).frame

/-- Change the innermost function. -/
def modifyFrame (change : Frame → Frame) : Parse Unit :=
  modify fun state =>
    match state.frames with
    | frame :: rest => { state with frames := change frame :: rest }
    | [] => state

/-- Read the token at an index as the next one. -/
def scanAt (index : Nat) : Parse Unit := do
  let state ← get
  match Lexer.next state.mode state.source index with
  | .ok current => set { state with current }
  | .error message => fail message

/-- Go on to the token after the next one. -/
def advance : Parse Unit := do
  let stop := (← get).current.stop
  modify fun state => { state with lastStop := stop }
  scanAt stop

/-- Whether the next token is a punctuator. -/
def isAt (text : String) : Parse Bool := return (← token).isPunctuator text

/-- Whether the next token is a reserved word. -/
def isAtKeyword (word : String) : Parse Bool := return (← token).isKeyword word

/-- Whether the next token is a word that is special here only. -/
def isAtWord (word : String) : Parse Bool := return (← token).isWord word

/-- Skip a punctuator if it is next, and say whether it was. -/
def accept (text : String) : Parse Bool := do
  if ← isAt text then
    advance
    return true
  else return false

/-- The text of the next token. -/
def tokenText : Parse String := do
  let state ← get
  return (state.source.slice state.current.start state.current.stop).lossy

/-- The longest part of a message that is kept, in bytes. -/
def maxMessageBytes : Nat := 255

/-- Stop because of the next token. -/
def unexpected {α : Type} : Parse α := do
  match ← token with
  | .finish => fail "Unexpected end of input"
  | .number _ | .bigint _ => fail "Unexpected number"
  | .text _ => fail "Unexpected string"
  | .template .. => fail "Unexpected string template"
  | .identifier name _ _ => fail ("Unexpected identifier '" ++ name.lossy ++ "'")
  | _ => fail ("Unexpected token '" ++ (← tokenText) ++ "'")

/-- Skip a punctuator that must be next. -/
def expect (text : String) : Parse Unit := do
  if ← isAt text then advance else unexpected

/-- Skip a reserved word that must be next. -/
def expectKeyword (word : String) : Parse Unit := do
  if ← isAtKeyword word then advance else unexpected

/-- End a statement: by a semicolon, or by what may stand in its place. -/
def endStatement : Parse Unit := do
  if ← isAt ";" then advance
  else if (← token) matches .finish then return ()
  else if (← isAt "\x7d") || (← atNewline) then return ()
  else fail "expecting ';'"

/-- Stop because a reserved name stands where a name should. -/
def reservedName {α : Type} : Parse α := do
  match ← token with
  | .identifier name _ _ => fail ("'" ++ name.lossy ++ "' is a reserved identifier")
  | _ => fail ("'" ++ (← tokenText) ++ "' is a reserved identifier")

/-! ## Looking ahead -/

/-- The token after the next one, without reading it for good. -/
def peek : Parse Scanned := do
  let state ← get
  match Lexer.next state.mode state.source state.current.stop with
  | .ok found => return found
  | .error _ => return { token := .finish, start := 0, stop := 0, newline := false }

/-- Whether the token after the next one is a punctuator on the same line. -/
def peekIs (text : String) : Parse Bool := do
  let found ← peek
  return found.token.isPunctuator text && !found.newline

/-- Do a step and come back to where it began, with what it found. -/
def lookAhead {α : Type} (step : Parse α) : Parse α := do
  let state ← get
  let found ← step
  set state
  return found

/-- What skipping a bracketed part showed. -/
structure Skipped where
  /-- The token after the part; none if the part does not end. -/
  follower : Token := .finish
  /-- Whether a line ended before that token. -/
  newline : Bool := false
  /-- Whether a semicolon stands directly inside the part. -/
  hasSemicolon : Bool := false
  /-- Whether a spread stands directly inside the part. -/
  hasSpread : Bool := false
  /-- Whether an equals sign stands anywhere in the part. -/
  hasAssignment : Bool := false
deriving Inhabited

/-- Whether a slash after a token begins a regular expression. -/
def allowsRegex : Token → Bool
  | .number _ | .bigint _ | .text _ | .regex _ | .hidden _ => false
  | .template _ _ last => !last
  | .identifier name _ _ => name == Units.ofString "of" || name == Units.ofString "yield"
  | .keyword word => !(["null", "this", "false", "true"].contains word)
  | .punctuator text => !(["]", ")", "\x7d", "++", "--"].contains text)
  | .finish => true

/-- The brackets that are open after a token, innermost first; none if the token closes another.
A piece of a template that is not the last opens one of its own. -/
def brackets (opened : List String) : Token → Option (List String)
  | .punctuator "(" => some ("(" :: opened)
  | .punctuator "[" => some ("[" :: opened)
  | .punctuator "\x7b" => some ("\x7b" :: opened)
  | .punctuator ")" => if opened.head? = some "(" then some opened.tail else none
  | .punctuator "]" => if opened.head? = some "[" then some opened.tail else none
  | .punctuator "\x7d" => if opened.head? = some "\x7b" then some opened.tail else none
  | .template _ _ last => some (if last then opened else "`" :: opened)
  | _ => some opened

/-- Note what a token shows of the part that it stands in. -/
def Skipped.note (skipped : Skipped) (depth : Nat) : Token → Skipped
  | .punctuator ";" => { skipped with hasSemicolon := skipped.hasSemicolon || depth = 1 }
  | .punctuator "..." => { skipped with hasSpread := skipped.hasSpread || depth = 1 }
  | .punctuator "=" => { skipped with hasAssignment := true }
  | _ => skipped

/-- Skip tokens, at most `fuel` of them, from one at an index on until all brackets are closed. -/
def skipFrom (mode : Mode) (source : Units) :
    Nat → Scanned → List String → Token → Skipped → Skipped
  | 0, _, _, _, skipped => skipped
  | fuel + 1, current, opened, last, skipped =>
    let slash := current.token.isPunctuator "/" || current.token.isPunctuator "/="
    let resumed : Except String (Token × Nat) :=
      if current.token.isPunctuator "\x7d" && opened.head? = some "`" then
        Lexer.template source (current.start + 1)
      else if slash && allowsRegex last then Lexer.regex source current.start
      else .ok (current.token, current.stop)
    match resumed with
    | .error _ => skipped
    | .ok (token, stop) =>
      if token matches .finish then skipped
      else
        let opened := if current.token.isPunctuator "\x7d" && opened.head? = some "`" then opened.tail
          else opened
        match brackets opened token with
        | none => skipped
        | some opened =>
          let skipped := skipped.note opened.length token
          match Lexer.next mode source stop with
          | .error _ => skipped
          | .ok next =>
            if opened.isEmpty then
              { skipped with follower := next.token, newline := next.newline }
            else skipFrom mode source fuel next opened token skipped

/-- Skip the bracketed part that begins with the next token, without reading it for good. -/
def skipBrackets : Parse Skipped := do
  let state ← get
  return skipFrom state.mode state.source (state.source.size + 1) state.current [] .finish {}

/-! ## Finished functions and classes -/

/-- Put a function into the table: its place. -/
def addFunction (function : Function) : Parse Nat := do
  let table := (← get).table
  modify fun state =>
    { state with table := { state.table with functions := state.table.functions.push function } }
  return table.functions.size

/-- Put a class into the table: its place. -/
def addClass (made : Class) : Parse Nat := do
  let table := (← get).table
  modify fun state =>
    { state with table := { state.table with classes := state.table.classes.push made } }
  return table.classes.size

/-- The number of functions and classes that are finished. -/
def made : Parse Nat := do
  let table := (← get).table
  return table.functions.size + table.classes.size

/-- Name a function or class that has no name of its own. -/
def giveName (name : Units) (value : Expr) : Parse Unit :=
  match value with
  | .function place =>
    modify fun state => { state with table := { state.table with
      functions := state.table.functions.modify place fun function =>
        if function.name.isEmpty && function.selfName.isNone then { function with name }
        else function } }
  | .class place =>
    modify fun state => { state with table := { state.table with
      classes := state.table.classes.modify place fun made =>
        if made.bound then made else { made with name } } }
  | _ => return ()

end Scratchpad.Script.Parser
