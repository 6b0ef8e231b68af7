/-!
# Stages of the embedded interpreter

An interpreter that has not been asked for, one that is being loaded, and the two ends of a load.
-/
namespace Scratchpad

/-- `InterpreterState` — how far the embedded interpreter has come. -/
inductive Stage where
  | uninitialized
  | loading
  | ready
  | failed
deriving DecidableEq, Repr, Inhabited

namespace Stage

/-- `InterpreterState::to_string` — the name of a stage inside a sentence. -/
def name : Stage → String
  | .uninitialized => "uninitialized"
  | .loading => "loading"
  | .ready => "ready"
  | .failed => "failed"

/-- The name of a stage that stands alone. -/
def title : Stage → String
  | .uninitialized => "Uninitialized"
  | .loading => "Loading"
  | .ready => "Ready"
  | .failed => "Failed"

/-- `EmbeddedPython::is_loading` — whether a load is still to end, so that the run control is
disabled. -/
def isPending : Stage → Bool
  | .uninitialized | .loading => true
  | .ready | .failed => false

end Stage

end Scratchpad
