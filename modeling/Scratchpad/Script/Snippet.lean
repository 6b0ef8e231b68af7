import Scratchpad.Script.Console
import Scratchpad.Settings

/-!
# Snippets

Evaluating a snippet: it becomes the body of a function whose only parameter is the console, and the
function is called once. If it wrote to the console, its lines are what comes of it; otherwise what
it returned.
-/
namespace Scratchpad.Script

/-! ## The clock -/

/-- What a run finds of the clock when it begins. -/
structure Start where
  /-- Where the clock stands. -/
  now : TimeSpan
  /-- How often the engine can look at the clock before a time limit is over. -/
  turns : Nat
deriving DecidableEq, Repr

/-- The number of seconds at which the clock ends. -/
def clockEnd : Nat := Nat.pow 2 63

/-- The nanoseconds of a second. -/
def nanosPerSecond : Nat := 1000000000

/-- The moment at which a time limit is over, if the clock goes that far. -/
def deadline? (now limit : TimeSpan) : Option TimeSpan :=
  let nanos := now.nanos + limit.nanos
  let secs := now.secs + limit.secs + nanos / nanosPerSecond
  if secs < clockEnd then some ⟨secs, nanos % nanosPerSecond⟩ else none

/-- Whether a run that begins at a start has a time limit that is never over on the clock. -/
def Start.isLate (start : Start) (settings : ScriptSettings) : Bool :=
  settings.timeout.any fun limit => (deadline? start.now limit).isNone

/-- How often the engine can look at the clock in a run; only one with a time limit looks. -/
def Start.turns? (start : Start) (settings : ScriptSettings) : Option Nat :=
  settings.timeout.map fun _ => start.turns

/-! ## Failures -/

/-- The text of a panic because the clock does not go as far as a deadline. -/
def overflowText : String := "overflow when adding duration to instant"

/-- `executor::javascript::engine_error` — the failure of an engine that cannot be set up. -/
def setupFailure (text : String) : Failure := .engineSetup ("javascript engine: " ++ text)

/-- What became of an evaluation in an engine that was open. -/
def Evaluation.ofOutcome {σ : Type} : Outcome σ Failure Completion → Evaluation
  | .done completion _ _ => .completed completion
  | .stopped failure _ _ => .failed failure
  | .clashed message => .panicked message

namespace Engine

variable (engine : Engine)

/-! ## Texts of values -/

/-- `executor::javascript::js_string` — a value as the class of strings shows it. -/
def stringOf (value : engine.Value) : Step engine.State engine.Fault String := do
  let convert ← engine.ask (engine.globalFunction "String")
  let text ← engine.ask (engine.call convert [value])
  engine.ask (engine.asText text)

/-- The message of an error, empty if there is none that can be read. -/
def messageOf {ε : Type} (error : engine.Value) : Step engine.State ε String := do
  match ← (engine.ask (engine.message error)).attempt with
  | .ok (some message) => return message
  | .ok none | .error _ => return ""

/-- What is told of what was caught while something thrown was being shown. -/
def nestedMessage {ε : Type} : Caught engine.Value → Step engine.State ε String
  | .error error => engine.messageOf error
  | .value value => .change fun state => (engine.listed value state, state)
  | .fault text => return text

/-- `executor::javascript::thrown_message` — what is told of what was caught. -/
def thrownMessage {ε : Type} : Caught engine.Value → Step engine.State ε String
  | .error error => engine.messageOf error
  | .value value => do
    match ← (engine.stringOf value).attempt with
    | .ok text => return text
    | .error fault => engine.nestedMessage (← .change (engine.caught fault))
  | .fault text => return text

/-! ## Evaluation -/

/-- Call the function that a snippet is the body of. -/
def callSnippet (code : String) (console : engine.Value) :
    Step engine.State engine.Fault engine.Value := do
  let constructor ← engine.ask (engine.globalFunction "Function")
  let made ← engine.ask (engine.callTexts constructor ["console", "\n" ++ code])
  let function ← engine.ask (engine.asFunction made)
  engine.ask (engine.call function [console])

/-- What comes of a snippet whose function returned a value. -/
def settle (value : engine.Value) : Step engine.State engine.Fault Completion := do
  let lines ← Step.readLines
  if !lines.isEmpty then return .logged (lines.toList.map ConsoleLine.text)
  else if engine.isUndefined value then return .returned none
  else return .returned (some (← engine.stringOf value))

/-- What comes of a snippet in an engine that is open. -/
def runSnippet (code : String) : Step engine.State Failure Completion := do
  match ← engine.makeConsole.attempt with
  | .error fault => Step.stop (setupFailure (engine.faultText fault))
  | .ok console =>
    match ← (do engine.settle (← engine.callSnippet code console)).attempt with
    | .ok completion => return completion
    | .error fault => return .threw (← engine.thrownMessage (← .change (engine.caught fault)))

/-- An engine that is open for a snippet, or what becomes of the evaluation without one. -/
def opened (start : Start) (settings : ScriptSettings) : Except Evaluation engine.State :=
  match engine.newRuntime with
  | .error text => .error (.failed (setupFailure text))
  | .ok runtime =>
    if start.isLate settings then .error (.panicked overflowText)
    else
      match engine.openContext runtime settings.maxMemory (start.turns? settings) with
      | .error text => .error (.failed (setupFailure text))
      | .ok state => .ok state

/-- `executor::javascript::evaluate` — evaluate a snippet in an engine of its own. -/
def evaluate (start : Start) (settings : ScriptSettings) (code : String) : Evaluation :=
  match engine.opened start settings with
  | .error early => early
  | .ok state => .ofOutcome (engine.runSnippet code state {})

end Engine

end Scratchpad.Script
