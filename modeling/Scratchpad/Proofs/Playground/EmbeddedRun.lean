import Scratchpad.Playground.Panel
import Scratchpad.Proofs.Text.Lines
import Scratchpad.Proofs.Text.Trimming

/-!
# Runs in the embedded interpreter

What the panel shows after a run of a Python snippet in an interpreter that is ready. The rule is
stated for every outcome of a guest, since the text of a trap or of an exception may be anything:
`Concludes` says what is shown of an outcome and what the sinks heard. A success keeps the lines
that were streamed and nothing older; a failure leaves nothing of them, because the text of the
failure takes the place of everything.
-/
namespace Scratchpad

/-- What the panel shows of a failure: a fixed text if the failure tells of a forbidden use of
files, and otherwise the failure's own text with a mark. -/
structure Failure.ShownAs (failure : Failure) (shown : String) : Prop where
  /-- A failure that names both the class and the number of the error is not shown itself. -/
  curated : "OSError".toList <:+: failure.text.toList →
    "Errno 29".toList <:+: failure.text.toList → shown = Failure.osUnsupported
  /-- Any other failure is shown as it is. -/
  plain : ¬("OSError".toList <:+: failure.text.toList ∧
    "Errno 29".toList <:+: failure.text.toList) → shown = "Error: " ++ failure.text
  /-- The fixed text stands for no other failure, except one whose own text makes it up. -/
  only : shown = Failure.osUnsupported → ("OSError".toList <:+: failure.text.toList ∧
    "Errno 29".toList <:+: failure.text.toList) ∨ Failure.osUnsupported = "Error: " ++ failure.text

/-- Every failure is shown as it is described. -/
theorem Failure.shownAs_describe (failure : Failure) : failure.ShownAs failure.describe := by
  have rule : Failure.isOsFailure failure.text = true ↔
      "OSError".toList <:+: failure.text.toList ∧ "Errno 29".toList <:+: failure.text.toList := by
    rw [Failure.isOsFailure, Bool.and_eq_true, Text.contains_iff, Text.contains_iff]
  have plain : ¬("OSError".toList <:+: failure.text.toList ∧
      "Errno 29".toList <:+: failure.text.toList) →
      failure.describe = "Error: " ++ failure.text := by
    intro other
    rw [Failure.describe, Failure.describeText, if_neg (fun found => other (rule.mp found))]
  refine ⟨?_, plain, ?_⟩
  · intro named numbered
    rw [Failure.describe, Failure.describeText, if_pos (rule.mpr ⟨named, numbered⟩)]
  · intro fixed
    by_cases forbidden : "OSError".toList <:+: failure.text.toList ∧
        "Errno 29".toList <:+: failure.text.toList
    · exact .inl forbidden
    · exact .inr (fixed.symm.trans (plain forbidden))

/-- What the panel shows after a run that came to an outcome, and the lines that the sinks heard.
No field for a failed run mentions the output stream. -/
structure Concludes (outcome : Except Failure Guest.Captured) (heard : List SinkLine)
    (shown : String) : Prop where
  /-- A success shows the lines of the output stream, then those of the error stream with their
  mark, and nothing else. -/
  success : ∀ captured, outcome = .ok captured → captured.status = 0 → ∃ outputs errors,
    Text.FallsInto captured.output.toList outputs ∧ Text.FallsInto captured.error.toList errors ∧
    shown = String.join (outputs.map fun line => String.ofList line ++ "\n") ++
      String.join (errors.map fun line => "Error: " ++ String.ofList line ++ "\n")
  /-- A failed run shows the exception that its error stream tells of. -/
  raised : ∀ captured exception, outcome = .ok captured → captured.status ≠ 0 →
    Traceback.parse captured.error = some exception → (Failure.exception exception).ShownAs shown
  /-- If the stream tells of none, what it wrote is shown without the blanks around it. -/
  printed : ∀ captured core, outcome = .ok captured → captured.status ≠ 0 →
    Traceback.parse captured.error = none → Text.Trimmed captured.error.toList core → core ≠ [] →
    (Failure.execution (String.ofList core)).ShownAs shown
  /-- If it wrote nothing but blanks, the status is shown. -/
  silent : ∀ captured, outcome = .ok captured → captured.status ≠ 0 →
    Traceback.parse captured.error = none → Text.Trimmed captured.error.toList [] →
    (Failure.execution ("interpreter exited with status " ++ toString captured.status)).ShownAs
      shown
  /-- A run that came to no result shows why, and its sinks heard nothing. -/
  failed : ∀ failure, outcome = .error failure → heard = [] ∧ failure.ShownAs shown

namespace SourceRun

/-- What a run writes to the transcript that its sinks feed. -/
def writes (run : SourceRun) : List Transcript.Write :=
  Answer.writes { streamed := run.lines.map SinkLine.write, replacement := run.replacement }

/-- The text that a run leaves in a transcript that was cleared before it. -/
def text (run : SourceRun) : String := Transcript.writeAll "" run.writes

/-- The lines of the output stream are written as such. -/
theorem map_write_output (text : String) :
    (linesOf .output text).map SinkLine.write = (Text.lines text).map .output := by
  rw [linesOf, List.map_map]
  rfl

/-- The lines of the error stream are written as such. -/
theorem map_write_error (text : String) :
    (linesOf .error text).map SinkLine.write = (Text.lines text).map .error := by
  rw [linesOf, List.map_map]
  rfl

/-- A success leaves the lines of both streams in an empty transcript. -/
theorem text_success (captured : Guest.Captured) (success : captured.status = 0) :
    (ofResult (.ok captured)).text =
      String.join ((Text.lines captured.output).map (· ++ "\n")) ++
      String.join ((Text.lines captured.error).map fun line =>
        Transcript.errorMark ++ line ++ "\n") := by
  have ended : captured.isSuccess = true := decide_eq_true success
  simp only [ofResult, ended, if_true, text, writes, Answer.writes, replacement, List.map_append,
    map_write_output, map_write_error]
  rw [Transcript.writeAll_append, Transcript.writeAll_output, Transcript.writeAll_error,
    String.empty_append]

/-- A run with a text that takes the place of everything leaves just that text. -/
theorem text_of_replacement {run : SourceRun} {shown : String}
    (replaced : run.replacement = some shown) : run.text = shown := by
  rw [text, writes, Answer.writes, replaced]
  exact Transcript.writeAll_replace "" _ shown

/-- A failure that says something of the run takes the place of everything. -/
theorem replacement_of_failure (lines : List SinkLine) {failure : Failure}
    (reached : ∀ stage, failure ≠ .unavailable stage) :
    replacement { lines, failure := some failure } = some failure.describe := by
  cases failure with
  | unavailable stage => exact absurd rfl (reached stage)
  | _ => rfl

/-- The cause of a failed run is never that there was no interpreter. -/
theorem cause_reached (error : String) (status : Int) (stage : Stage) :
    cause error status ≠ .unavailable stage := by
  unfold cause
  split
  · nofun
  · dsimp only
    split <;> nofun

/-- A run with a status other than zero leaves the description of its cause. -/
theorem text_failure (captured : Guest.Captured) (unsuccessful : captured.status ≠ 0) :
    (ofResult (.ok captured)).text = (cause captured.error captured.status).describe := by
  have ended : captured.isSuccess = false := decide_eq_false unsuccessful
  apply text_of_replacement
  simp only [ofResult, ended, Bool.false_eq_true, if_false]
  exact replacement_of_failure _ (cause_reached captured.error captured.status)

/-- A run that came to an outcome leaves what is to be shown of that outcome. -/
theorem concludes_ofResult (outcome : Except Failure Guest.Captured)
    (reached : ∀ stage, outcome ≠ .error (.unavailable stage)) :
    Concludes outcome (ofResult outcome).lines (ofResult outcome).text := by
  constructor
  · rintro captured rfl success
    refine ⟨_, _, Text.fallsInto_iff.mpr rfl, Text.fallsInto_iff.mpr rfl, ?_⟩
    rw [text_success captured success]
    simp only [Text.lines, List.map_map]
    rfl
  · rintro captured exception rfl unsuccessful read
    rw [text_failure captured unsuccessful, cause, read]
    exact Failure.shownAs_describe _
  · rintro captured core rfl unsuccessful unread trimmed some
    have left : Text.trim captured.error = String.ofList core := by
      rw [Text.trim, ← trimmed.eq_trimChars]
    have shown : String.ofList core ≠ "" := fun empty => some (String.ofList_eq_empty_iff.mp empty)
    rw [text_failure captured unsuccessful, cause, unread]
    simp only [left, if_neg shown]
    exact Failure.shownAs_describe _
  · rintro captured rfl unsuccessful unread trimmed
    have left : Text.trim captured.error = "" := by
      rw [Text.trim, ← trimmed.eq_trimChars]
    rw [text_failure captured unsuccessful, cause, unread]
    simp only [if_pos left]
    exact Failure.shownAs_describe _
  · rintro failure rfl
    have replaced : (ofResult (.error failure)).replacement = some failure.describe :=
      replacement_of_failure [] fun stage same => reached stage (by rw [same])
    refine ⟨rfl, ?_⟩
    rw [text_of_replacement replaced]
    exact Failure.shownAs_describe failure

end SourceRun

/-- The end of a guest is never judged to be the lack of an interpreter. -/
theorem Guest.judge_reached (settings : InterpreterSettings) (state : Guest.State)
    (ended : Guest.End) (stage : Stage) :
    Guest.judge settings state ended ≠ .error (.unavailable stage) := by
  cases ended with
  | outOfTime => nofun
  | returned => nofun
  | exited status | trapped | outOfFuel =>
    unfold Guest.judge Guest.refusedFailure
    dsimp only
    split <;> nofun

/-- A run of a program never reports that there was no interpreter. -/
theorem Guest.Program.run_reached (program : Guest.Program) (settings : InterpreterSettings)
    (code : String) (stage : Stage) : program.run settings code ≠ .error (.unavailable stage) := by
  have opened : program.opened settings ≠ .error (.unavailable stage) := by
    unfold Guest.Program.opened
    split
    · nofun
    · dsimp only
      split
      · nofun
      · split <;> nofun
  unfold Guest.Program.run
  split
  · next failed => exact fun same => opened (by rw [failed, Except.error.inj same])
  · exact Guest.judge_reached settings _ _ stage

/-- A runner whose sinks feed the transcript streams every line there and stays as it was. -/
theorem EmbeddedRunner.answer_of_feeding {runner : EmbeddedRunner} (feeding : runner.heard = none)
    (run : SourceRun) : runner.answer run =
      ({ streamed := run.lines.map SinkLine.write, replacement := run.replacement }, runner) := by
  rw [EmbeddedRunner.answer, EmbeddedRunner.deliver, feeding]

namespace Playground

/-- The playground after a run of its embedded interpreter that came to an outcome. -/
def concluded (playground : Playground Backend) (runner : EmbeddedRunner)
    (outcome : Except Failure Guest.Captured) : Playground Backend :=
  let (answer, runner) := runner.answer (.ofResult outcome)
  playground.answered answer (.embedded runner)

/-- A run of a Python snippet in the embedded interpreter is a run of source text. -/
theorem run_embedded (playground : Playground Backend) {runner : EmbeddedRunner}
    (backend : playground.python = .embedded runner) (thread : Nat) (code : String) :
    playground.run thread .python code =
      playground.answered (runner.answer (runner.embedded.runSource code)).1
        (.embedded (runner.answer (runner.embedded.runSource code)).2) := by
  rw [Playground.run, Playground.answer, backend]
  rfl

/-- Whatever a playground showed before, a run whose sinks feed the transcript leaves only its own
text. -/
theorem output_concluded (playground : Playground Backend) {runner : EmbeddedRunner}
    (feeding : runner.heard = none) (outcome : Except Failure Guest.Captured) :
    (playground.concluded runner outcome).output = (SourceRun.ofResult outcome).text := by
  rw [concluded, EmbeddedRunner.answer_of_feeding feeding]
  exact Transcript.writeAll_reset playground.output (SourceRun.ofResult outcome).writes

/-- A run of a Python snippet in an interpreter that is ready is a run of its program. -/
theorem run_of_loaded (playground : Playground Backend) {runner : EmbeddedRunner}
    {program : Guest.Program} (backend : playground.python = .embedded runner)
    (ready : runner.embedded.life = .loaded (some program)) (thread : Nat) (code : String) :
    playground.run thread .python code =
      playground.concluded runner (program.run runner.embedded.settings code) := by
  have run : runner.embedded.runSource code =
      .ofResult (program.run runner.embedded.settings code) := by
    rw [Embedded.runSource, ready]
    rfl
  rw [run_embedded playground backend, run]
  rfl

/-- After a run of a Python snippet in an interpreter that is ready, the panel shows what is to be
shown of the run's outcome, whatever it showed before. -/
theorem embedded_run_concludes (playground : Playground Backend) (runner : EmbeddedRunner)
    (program : Guest.Program) (thread : Nat) (code : String)
    (backend : playground.python = .embedded runner)
    (ready : runner.embedded.life = .loaded (some program)) (feeding : runner.heard = none) :
    playground.run thread .python code =
        playground.concluded runner (program.run runner.embedded.settings code) ∧
      (∀ stage, program.run runner.embedded.settings code ≠ .error (.unavailable stage)) ∧
      ∀ outcome, (∀ stage, outcome ≠ .error (.unavailable stage)) →
        Concludes outcome (SourceRun.ofResult outcome).lines
          (playground.concluded runner outcome).output := by
  refine ⟨run_of_loaded playground backend ready thread code,
    program.run_reached runner.embedded.settings code, ?_⟩
  intro outcome reached
  rw [output_concluded playground feeding]
  exact SourceRun.concludes_ofResult outcome reached

/-- A program that prints a line and then fails by opening a file. -/
def opensFile : Guest.Program where
  memory := some 1
  table := none
  unresolved := false
  entry := .proper
  actions _ := [.write .output (Text.Utf8.bytes "before\n"),
    .write .error (Text.Utf8.bytes "OSError: [Errno 29] I/O error\n")]
  ending := .exits 1

/-- A runner with that program, feeding the transcript. -/
def fileRunner : EmbeddedRunner where
  embedded := {
    settings := {}
    fetched := .image (.program opensFile)
    life := .loaded (some opensFile) }

/-- A playground with that runner, after some earlier run. -/
def filePlayground : Playground Backend where
  output := "stale"
  script := {}
  python := .embedded fileRunner

/-- Neither the stale text nor the printed line is left of a run that opens a file. -/
theorem embedded_run_concludes_opensFile :
    filePlayground.python = .embedded fileRunner ∧
      fileRunner.embedded.life = .loaded (some opensFile) ∧ fileRunner.heard = none ∧
      (filePlayground.run 7 .python "open('x')").output = Failure.osUnsupported := by
  refine ⟨rfl, rfl, rfl, ?_⟩
  obtain ⟨same, reached, concludes⟩ :=
    embedded_run_concludes filePlayground fileRunner opensFile 7 "open('x')" rfl rfl rfl
  have ended : opensFile.run fileRunner.embedded.settings "open('x')" =
      .ok ⟨"before\n", "OSError: [Errno 29] I/O error\n", 1⟩ := by decide +kernel
  have read : Traceback.parse "OSError: [Errno 29] I/O error\n" =
      some ⟨"OSError", "[Errno 29] I/O error", none⟩ := by decide +kernel
  have shown := (concludes _ reached).raised _ _ ended (by decide) read
  rw [same]
  exact shown.curated (by decide +kernel) (by decide +kernel)

end Playground

end Scratchpad
