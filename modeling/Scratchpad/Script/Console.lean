import Scratchpad.Script.Engine

/-!
# The console

What the methods of the console do: the arguments of a call become texts, one after the other, and
make one line. The conversion of an argument is up to the engine, which may run code of the script
that calls the methods again.
-/
namespace Scratchpad.Script

/-- The name of the method of a level. -/
def Level.name : Level → String
  | .log => "log"
  | .error => "error"
  | .warn => "warn"

/-- The levels in the order of the methods. -/
def Level.all : List Level := [.log, .error, .warn]

/-- The line of a level with arguments as they are written, single spaces between them. -/
def ConsoleLine.ofTexts (level : Level) (texts : List String) : ConsoleLine where
  level
  message := " ".intercalate texts

/-- Add a line to the log. -/
def addLine {σ ε : Type} (line : ConsoleLine) : Step σ ε Unit := do
  let lines ← Step.takeLines
  Step.giveLines (lines.push line)

namespace Engine

variable (engine : Engine)

/-- An argument of a method as it is written: a missing value is written as nothing. -/
def argumentText (methods : Methods engine.State engine.Value engine.Fault)
    (value : engine.Value) : Step engine.State engine.Fault String :=
  if engine.isNull value || engine.isUndefined value then return ""
  else (engine.coerced value).run methods

/-- `executor::javascript::join_args` — the arguments as they are written, in their order. -/
def argumentTexts (methods : Methods engine.State engine.Value engine.Fault) :
    List engine.Value → Step engine.State engine.Fault (List String)
  | [] => return []
  | value :: rest => do
    let text ← engine.argumentText methods value
    return text :: (← argumentTexts methods rest)

/-- Write a line, while the conversions of the arguments call methods. -/
def writeLine (methods : Methods engine.State engine.Value engine.Fault) :
    Methods engine.State engine.Value engine.Fault := fun level arguments => do
  let texts ← engine.argumentTexts methods arguments
  addLine (.ofTexts level texts)

/-- The methods, if so many calls of them may be inside each other: the engine refuses any more. -/
def methodsWithin : Nat → Methods engine.State engine.Value engine.Fault
  | 0 => fun _ _ state log =>
    let (fault, state) := engine.overflow state
    .stopped fault state log
  | depth + 1 => fun level arguments => engine.writeLine (methodsWithin depth) level arguments

/-- Ask an engine for something, with all methods there. -/
def ask {α : Type} (ask : Ask engine.State engine.Value engine.Fault α) :
    Step engine.State engine.Fault α :=
  ask.run (engine.methodsWithin engine.nesting)

/-- Give an object the methods of levels. -/
def equip (console : engine.Value) : List Level → Step engine.State engine.Fault Unit
  | [] => return ()
  | level :: rest => do
    let method ← engine.ask (engine.newMethod level)
    engine.ask (engine.set console level.name method)
    equip console rest

/-- `executor::javascript::console_object` — an object with a method for each level. -/
def makeConsole : Step engine.State engine.Fault engine.Value := do
  let console ← engine.ask engine.newObject
  engine.equip console Level.all
  return console

end Engine

end Scratchpad.Script
