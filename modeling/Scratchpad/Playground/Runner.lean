import Scratchpad.Interpreter.Embedded
import Scratchpad.Remote.Service

/-!
# Runners of Python

What a playground needs of whatever runs its Python snippets: a run that writes to the transcript
and may leave a text to take its place, a flag that disables the run control, and a setup when the
playground is mounted. Three runners are given: the embedded interpreter, the remote service, and
one that answers from a list.
-/
namespace Scratchpad

/-- What a run writes to the transcript, and the text that takes its place afterwards. -/
structure Answer where
  streamed : List Transcript.Write := []
  replacement : Option String := none

/-- Every write of an answer. -/
def Answer.writes (answer : Answer) : List Transcript.Write :=
  match answer.replacement with
  | some text => answer.streamed ++ [.replace text]
  | none => answer.streamed

/-- `PythonRunner` — a type whose values run Python snippets. -/
class Runner (σ : Type) where
  /-- Run a snippet. -/
  run : σ → String → Answer × σ
  /-- Whether the run control is disabled. -/
  isLoading : σ → Bool
  /-- Set up the runner when the playground is mounted. -/
  mount : σ → List Transcript.Write × σ

/-- An embedded interpreter whose sinks feed the transcript, or keep what they hear. -/
structure EmbeddedRunner where
  embedded : Embedded
  /-- What the sinks heard, if they do not feed the transcript. -/
  heard : Option (List SinkLine) := none

namespace EmbeddedRunner

/-- Hand lines to the sinks: what that writes to the transcript, and the runner after it. -/
def deliver (runner : EmbeddedRunner) (lines : List SinkLine) :
    List Transcript.Write × EmbeddedRunner :=
  match runner.heard with
  | none => (lines.map SinkLine.write, runner)
  | some heard => ([], { runner with heard := some (heard ++ lines) })

/-- Without lines, nothing is written and nothing is heard. -/
@[simp]
theorem deliver_nil (runner : EmbeddedRunner) : runner.deliver [] = ([], runner) := by
  obtain ⟨embedded, heard⟩ := runner
  cases heard with
  | none => rfl
  | some lines => simp [deliver]

/-- Lines are delivered one after the other. -/
theorem deliver_cons (runner : EmbeddedRunner) (line : SinkLine) (lines : List SinkLine) :
    runner.deliver (line :: lines) =
      ((runner.deliver [line]).1 ++ ((runner.deliver [line]).2.deliver lines).1,
        ((runner.deliver [line]).2.deliver lines).2) := by
  obtain ⟨embedded, heard⟩ := runner
  cases heard with
  | none => rfl
  | some before => simp [deliver]

/-- Run source text: how it failed, what it writes to the transcript, and the runner after it. -/
def runSource (runner : EmbeddedRunner) (code : String) :
    SourceRun × List Transcript.Write × EmbeddedRunner :=
  let run := runner.embedded.runSource code
  (run, runner.deliver run.lines)

/-- `EmbeddedPython::run_python` — what a run of source text answers, and the runner after it. -/
def answer (runner : EmbeddedRunner) (run : SourceRun) : Answer × EmbeddedRunner :=
  let (streamed, runner) := runner.deliver run.lines
  ({ streamed, replacement := run.replacement }, runner)

/-- `EmbeddedPython::mount` — the runner after its interpreter was asked for. -/
def load (runner : EmbeddedRunner) : List Transcript.Write × EmbeddedRunner :=
  let (embedded, writes) := runner.embedded.load
  (writes, { runner with embedded })

instance : Runner EmbeddedRunner where
  run runner code := runner.answer (runner.embedded.runSource code)
  isLoading runner := runner.embedded.stage.isPending
  mount runner := runner.load

end EmbeddedRunner

instance : Runner Remote where
  run remote code :=
    let (text, remote) := remote.run code
    ({ replacement := some text }, remote)
  isLoading remote := remote.inFlight
  mount remote := ([], remote)

/-- How a scripted runner answers. -/
inductive ScriptedReply where
  /-- It has nothing to say. -/
  | silent
  | text (text : String)
  /-- It writes a text to the transcript. -/
  | stream (text : String)
  /-- It answers with the code. -/
  | echo
deriving Repr

/-- A runner that answers from a list and remembers what it was asked. -/
structure Scripted where
  replies : List ScriptedReply
  seen : List String := []
  busy : Bool := false

/-- The answer of a scripted runner to a code. -/
def ScriptedReply.answer (code : String) : ScriptedReply → Answer
  | .silent => {}
  | .text shown => { replacement := some shown }
  | .stream written => { streamed := [.append written] }
  | .echo => { replacement := some ("echo: " ++ code) }

instance : Runner Scripted where
  run runner code :=
    ((runner.replies.head?.getD .silent).answer code,
      { runner with replies := runner.replies.tail, seen := runner.seen ++ [code] })
  isLoading runner := runner.busy
  mount runner := ([], runner)

/-- `PythonBackend` — the runner that the settings of a playground choose. -/
inductive Backend where
  | embedded (runner : EmbeddedRunner)
  | remote (remote : Remote)

/-- `Playground::from_config` — the runner that settings choose, with nothing loaded and nothing
sent. -/
def Backend.ofSettings (settings : Settings) (fetch : String → Guest.Fetched)
    (deliveries : List Delivery) : Backend :=
  match settings.pythonMode with
  | .embedded =>
    .embedded { embedded := {
      settings := settings.interpreter
      fetched := fetch settings.interpreter.location } }
  | .remote => .remote { endpoint := settings.endpoint, deliveries }

/-- `PythonBackend::mode` — the mode of a runner. -/
def Backend.mode : Backend → PythonMode
  | .embedded _ => .embedded
  | .remote _ => .remote

instance : Runner Backend where
  run
    | .embedded runner, code =>
      let (answer, runner) := Runner.run runner code
      (answer, .embedded runner)
    | .remote remote, code =>
      let (answer, remote) := Runner.run remote code
      (answer, .remote remote)
  isLoading
    | .embedded runner => Runner.isLoading runner
    | .remote remote => Runner.isLoading remote
  mount
    | .embedded runner =>
      let (writes, runner) := Runner.mount runner
      (writes, .embedded runner)
    | .remote remote =>
      let (writes, remote) := Runner.mount remote
      (writes, .remote remote)

end Scratchpad
