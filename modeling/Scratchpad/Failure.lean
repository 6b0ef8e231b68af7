import Scratchpad.Interpreter.Stage
import Scratchpad.Json.Fault
import Scratchpad.TimeSpan
import Scratchpad.Traceback

/-!
# Failures

The causes for which a run or a load fails, the wording of each, and what the panel shows of it.
-/
namespace Scratchpad

/-- `PlaygroundError` — why something failed. -/
inductive Failure where
  /-- A run outlasted its time. -/
  | timedOut (limit : TimeSpan)
  /-- A run asked for more memory than it may have. -/
  | memoryLimit (detail : String)
  /-- An engine could not be set up. -/
  | engineSetup (detail : String)
  /-- An interpreter could not be loaded or started. -/
  | load (detail : String)
  /-- A run ended abnormally. -/
  | execution (detail : String)
  /-- The snippet raised an exception. -/
  | exception (raised : Raised)
  /-- There is no interpreter to run the snippet. -/
  | unavailable (stage : Stage)
  /-- A file could not be read. -/
  | io (detail : String)
  /-- The service could not be reached. -/
  | transport (detail : String)
  /-- The service answered with something that is not JSON. -/
  | malformedReply (fault : Json.Fault)
  /-- A setting has no meaning. -/
  | configuration (detail : String)
  /-- There is no interpreter at the given place. -/
  | interpreterMissing (location : String)
  /-- A run used up its instructions. -/
  | outOfFuel (budget : Option Nat)
deriving DecidableEq, Repr

namespace Failure

/-- A budget of instructions as it is shown. -/
def budgetText : Option Nat → String
  | some budget => "Some(" ++ toString budget ++ ")"
  | none => "None"

/-- `PlaygroundError::to_string` — the wording of a failure. -/
def message : Failure → String
  | .timedOut limit => "execution timed out after " ++ limit.text
  | .memoryLimit detail => "memory limit exceeded: " ++ detail
  | .engineSetup detail => "failed to initialize runtime: " ++ detail
  | .load detail => "failed to load Python interpreter: " ++ detail
  | .execution detail => "execution failed: " ++ detail
  | .exception raised => "Python " ++ raised.kind ++ ": " ++ raised.message
  | .unavailable stage => "Python interpreter is not available (" ++ stage.name ++ ")"
  | .io detail => "I/O error: " ++ detail
  | .transport detail => "transport error: " ++ detail
  | .malformedReply fault => "malformed response: " ++ fault.message
  | .configuration detail => "configuration error: " ++ detail
  | .interpreterMissing location => "Python interpreter wasm not found at: " ++ location
  | .outOfFuel budget => "execution ran out of fuel after " ++ budgetText budget ++ " instructions"

/-- `PlaygroundError::failure_text` — what a failed run reports: an exception as it was printed, an
abnormal end by its own text, and any other failure by its wording. -/
def text : Failure → String
  | .exception raised => raised.text
  | .execution detail => detail
  | failure => failure.message

/-- `OS_UNSUPPORTED_MESSAGE` — shown in the place of a failure that comes from a forbidden use of
files. -/
def osUnsupported : String :=
  "Error: File I/O and OS operations are not supported in sandboxed Python."

/-- Whether a text tells of a forbidden use of files. -/
def isOsFailure (text : String) : Bool :=
  Text.contains text "OSError" && Text.contains text "Errno 29"

/-- What the panel shows of a failure with a text. -/
def describeText (text : String) : String :=
  if isOsFailure text then osUnsupported else "Error: " ++ text

/-- `executor::embedded::describe_failure` — what the panel shows of a failure. -/
def describe (failure : Failure) : String := describeText failure.text

/-- `PlaygroundError::is_timeout` — whether a run outlasted its time. -/
def isTimeout : Failure → Bool
  | .timedOut _ => true
  | _ => false

/-- `PlaygroundError::is_memory_limit` — whether a run asked for too much memory. -/
def isMemoryLimit : Failure → Bool
  | .memoryLimit _ => true
  | _ => false

/-- `PlaygroundError::is_python_exception` — whether the snippet raised an exception. -/
def isException : Failure → Bool
  | .exception _ => true
  | _ => false

/-- `PlaygroundError::is_out_of_fuel` — whether a run used up its instructions. -/
def isOutOfFuel : Failure → Bool
  | .outOfFuel _ => true
  | _ => false

/-- `PlaygroundError::is_transport` — whether the fault lies with the service and not with the
snippet. -/
def isTransport : Failure → Bool
  | .transport _ | .malformedReply _ => true
  | _ => false

end Failure

/-- The failure of a text that names no language. -/
def Failure.unknownLanguage (name : String) : Failure :=
  .configuration ("unknown language '" ++ name ++ "', expected 'javascript' or 'python'")

end Scratchpad
