import Scratchpad.Guest.Run
import Scratchpad.Transcript.Handles

/-!
# Runs of source text in the embedded interpreter

The lines of a finished run are handed to two sinks, those of the output stream first. The error
stream is shown line by line only after a success; after a failure it is where the cause is read.
-/
namespace Scratchpad

/-- A line handed to the sink of a stream. -/
structure SinkLine where
  stream : Guest.Stream
  text : String
deriving DecidableEq, Repr

/-- What a sink that feeds a transcript writes of a line. -/
def SinkLine.write (line : SinkLine) : Transcript.Write :=
  match line.stream with
  | .output => .output line.text
  | .error => .error line.text

/-- What a run of source text did: the lines handed to the sinks in order, and why it failed. -/
structure SourceRun where
  lines : List SinkLine
  failure : Option Failure

namespace SourceRun

/-- The lines of a stream's text. -/
def linesOf (stream : Guest.Stream) (text : String) : List SinkLine :=
  (Text.lines text).map fun line => ⟨stream, line⟩

/-- `EmbeddedPython::run_source` — why an interpreter with a status failed: the exception that its
error stream tells of, else the trimmed stream itself, else the status. -/
def cause (error : String) (status : Int) : Failure :=
  match Traceback.parse error with
  | some raised => .exception raised
  | none =>
    let rest := Text.trim error
    if rest = "" then .execution ("interpreter exited with status " ++ toString status)
    else .execution rest

/-- `EmbeddedPython::run_source` — the run of a guest that ended. -/
def ofResult : Except Failure Guest.Captured → SourceRun
  | .error failure => { lines := [], failure := some failure }
  | .ok captured =>
    if captured.isSuccess then
      { lines := linesOf .output captured.output ++ linesOf .error captured.error
        failure := none }
    else
      { lines := linesOf .output captured.output
        failure := some (cause captured.error captured.status) }

/-- The run of a guest on a code. -/
def ofProgram (program : Guest.Program) (settings : InterpreterSettings) (code : String) :
    SourceRun :=
  ofResult (program.run settings code)

/-- The run of an interpreter that cannot be reached. -/
def unavailable (stage : Stage) : SourceRun :=
  { lines := [], failure := some (.unavailable stage) }

/-- `EmbeddedPython::run_python` — the text that takes the place of a transcript after a run;
nothing takes it after a success, nor when there was no interpreter. -/
def replacement (run : SourceRun) : Option String :=
  match run.failure with
  | none | some (.unavailable _) => none
  | some failure => some failure.describe

end SourceRun

end Scratchpad
