import Scratchpad.Interpreter.Lifecycle
import Scratchpad.Interpreter.SourceRun

/-!
# The embedded interpreter

An interpreter with its settings, the place where it is, and its life so far. Asking for it loads
it once; running source text before that, or after a failed load, does nothing.
-/
namespace Scratchpad

/-- `EmbeddedPython` — an embedded interpreter. -/
structure Embedded where
  settings : InterpreterSettings
  /-- What the place of the interpreter gives. -/
  fetched : Guest.Fetched
  life : Lifecycle := {}

namespace Embedded

/-- `INIT_FAILURE_MESSAGE` — shown when the interpreter cannot be loaded. -/
def loadFailureText : String :=
  "Failed to initialize Python environment. Please try again later."

/-- The outcome of a load. -/
def outcome (embedded : Embedded) : Option Guest.Program :=
  (Guest.load embedded.settings.location embedded.fetched).toOption

/-- `EmbeddedPython::initialize` — the interpreter after it was asked for, and what that writes to
the transcript. -/
def load (embedded : Embedded) : Embedded × List Transcript.Write :=
  let writes := match embedded.life.cell, embedded.outcome with
    | none, none => [.replace loadFailureText]
    | _, _ => []
  ({ embedded with life := embedded.life.load embedded.outcome }, writes)

/-- `EmbeddedPython::run_source` — run source text. -/
def runSource (embedded : Embedded) (code : String) : SourceRun :=
  match embedded.life.program? with
  | some program => .ofProgram program embedded.settings code
  | none => .unavailable embedded.life.stage

/-- `EmbeddedPython::state` — the stage that callers see. -/
def stage (embedded : Embedded) : Stage := embedded.life.stage

end Embedded

end Scratchpad
