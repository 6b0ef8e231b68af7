import Scratchpad.Failure

/-!
# Completions of a script

How the evaluation of a snippet ended, and the text that the panel shows of it. A snippet that
wrote to its console shows what it wrote, any other shows what it returned, and a snippet that
threw shows only what it threw.
-/
namespace Scratchpad.Script

/-- `LogLevel` — how serious a line of the console is. -/
inductive Level where
  | log
  | error
  | warn
deriving DecidableEq, Repr

/-- `LogLevel::prefix` — what precedes a line of a level. -/
def Level.mark : Level → String
  | .log => ""
  | .error => "Error: "
  | .warn => "Warning: "

/-- A line that a snippet wrote to its console. -/
structure ConsoleLine where
  level : Level
  /-- The arguments, joined by single spaces. -/
  message : String
deriving DecidableEq, Repr

/-- A line as it is shown. -/
def ConsoleLine.text (line : ConsoleLine) : String := line.level.mark ++ line.message

/-- `Completion` — how a snippet ended. -/
inductive Completion where
  /-- It wrote lines; what it returned does not matter. -/
  | logged (lines : List String)
  /-- It wrote nothing and returned a value, absent for `undefined`. -/
  | returned (value : Option String)
  /-- It threw. -/
  | threw (message : String)
deriving DecidableEq, Repr

/-- `Completion::render` — the text that the panel shows of a completion. -/
def Completion.render : Completion → String
  | .logged lines => Text.joinLines lines
  | .returned value => value.getD ""
  | .threw message => "Error: " ++ message

/-- What became of an evaluation. -/
inductive Evaluation where
  | completed (completion : Completion)
  | failed (failure : Failure)
  /-- The evaluating thread itself came to an end. -/
  | panicked (message : String)
deriving DecidableEq, Repr

/-- `executor::javascript::render` — the text of an evaluation, or the message of its panic. -/
def Evaluation.text? : Evaluation → Except String String
  | .completed completion => .ok completion.render
  | .failed failure => .ok ("Error: " ++ failure.message)
  | .panicked message => .error message

/-- What the caller shows of a thread with a number that has ended. -/
def joined (thread : Nat) : Except String String → String
  | .ok text => text
  | .error message =>
    "Error: task " ++ toString thread ++ " panicked with message \"" ++ message ++ "\""

/-- The text that the panel shows of an evaluation on a thread of its own with a number. -/
def Evaluation.render (thread : Nat) (evaluation : Evaluation) : String :=
  joined thread evaluation.text?

end Scratchpad.Script
