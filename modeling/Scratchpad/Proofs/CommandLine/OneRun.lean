import Scratchpad.CommandLine.Session
import Scratchpad.Proofs.Playground.LatestRun
import Scratchpad.Proofs.Text.Utf8

/-!
# The command as a session of one run

What the command prints and how it ends is told by a session on a fresh panel: the language is
selected, the snippet becomes the code, the playground is mounted, and the code is run. Only a
Python snippet that an embedded interpreter cannot be loaded for is not run; what the panel shows
after the mount is printed then. Before any other run the panel is cleared, so nothing of a failed
mount is left, and what runs Python makes no difference to a script.
-/
namespace Scratchpad.CommandLine

/-- How a text is printed: as it is if it is empty or its last line is ended, and else with a line
feed behind it. -/
inductive PrintedAs : String → String → Prop where
  | empty : PrintedAs "" ""
  | ended (front : String) : PrintedAs (front ++ "\n") (front ++ "\n")
  | unended {text : String} : text ≠ "" → (∀ front, text ≠ front ++ "\n") →
      PrintedAs text (text ++ "\n")

/-- The last line of a text is ended exactly if the text ends with a line feed. -/
theorem getLast?_eq_feed {text : String} :
    text.toList.getLast? = some '\n' ↔ ∃ front, text = front ++ "\n" := by
  constructor
  · intro last
    obtain ⟨front, same⟩ := List.getLast?_eq_some_iff.mp last
    refine ⟨String.ofList front, String.toList_inj.mp ?_⟩
    rw [same, String.toList_append, String.toList_ofList]
    rfl
  · rintro ⟨front, rfl⟩
    rw [String.toList_append]
    exact List.getLast?_concat

/-- Every text is printed by the rule. -/
theorem printedAs_printed (text : String) : PrintedAs text (printed text) := by
  by_cases empty : text = ""
  · subst empty
    exact .empty
  by_cases ended : text.toList.getLast? = some '\n'
  · have kept : printed text = text := by simp [printed, ended]
    obtain ⟨front, rfl⟩ := getLast?_eq_feed.mp ended
    rw [kept]
    exact .ended front
  · have fed : printed text = text ++ "\n" := by simp [printed, empty, ended]
    rw [fed]
    exact .unended empty fun front same => ended (getLast?_eq_feed.mpr ⟨front, same⟩)

/-! ## The snippet -/

/-- The surroundings hold a snippet where the options say, as the bytes of its characters. -/
def Holds (surroundings : Surroundings) (options : Options) (code : String) : Prop :=
  match options.file with
  | some name => surroundings.file name = some (Text.Utf8.bytes code)
  | none => surroundings.input = Text.Utf8.bytes code

/-- The bytes of a text are read as that text. -/
theorem string?_bytes (text : String) : Text.Utf8.string? (Text.Utf8.bytes text) = some text := by
  rw [Text.Utf8.string?, Text.Utf8.bytes_eq_encode, Text.Utf8.decode_encode]
  exact congrArg some String.ofList_toList

/-- A snippet that is there is read. -/
theorem readCode_of_holds {surroundings : Surroundings} {options : Options} {code : String}
    (holds : Holds surroundings options code) : readCode surroundings options = .ok code := by
  rw [Holds] at holds
  rw [readCode]
  cases file : options.file with
  | some name =>
    rw [file] at holds
    dsimp only at holds ⊢
    rw [holds, Option.bind_some, string?_bytes]
  | none =>
    rw [file] at holds
    dsimp only at holds ⊢
    rw [holds, string?_bytes]

/-- A command whose options and snippet can be read is a session. -/
theorem run_eq_session {surroundings : Surroundings} {arguments : List String} {options : Options}
    {code : String} (valid : read arguments = .ok options)
    (holds : Holds surroundings options code) :
    run surroundings arguments = session surroundings options code := by
  rw [run, valid]
  simp only [readCode_of_holds holds]

/-! ## The session -/

/-- The operations of a command before its run, the latest first. -/
def preparation (options : Options) (code : String) : List Panel.Step :=
  [.mount, .setCode code, .select options.language]

/-- The fresh panel of a command. -/
def freshPanel (surroundings : Surroundings) (options : Options) : Panel Backend :=
  Panel.fresh options.settings surroundings.fetch surroundings.deliveries ""

/-- The interpreter that a Python snippet is to be run in cannot be loaded. -/
def LoadFails (surroundings : Surroundings) (options : Options) : Prop :=
  options.language = .python ∧ options.pythonMode = .embedded ∧
    Panel.settledProgram options.settings surroundings.fetch = none

/-- The text of the run of a command: what the panel shows when the code was run. -/
def runText (surroundings : Surroundings) (options : Options) (code : String) : String :=
  ((freshPanel surroundings options).after (preparation options code)).runText 0

variable (surroundings : Surroundings) (options : Options) (code : String)

/-- The panel of a command is the fresh panel after the preparation. -/
theorem panel_eq : panel surroundings options code =
    (freshPanel surroundings options).after (preparation options code) := rfl

/-- The service of a command has answered nothing before the run. -/
theorem remote_prepared (mode : options.pythonMode = .remote) :
    ∃ remote, ((freshPanel surroundings options).after
        (preparation options code)).playground.python = .remote remote ∧
      remote.deliveries = surroundings.deliveries :=
  Panel.after_remote options.settings surroundings.fetch surroundings.deliveries "" mode
    (preparation options code)

/-- The embedded interpreter of a command has ended its load before the run. -/
theorem embedded_prepared (mode : options.pythonMode = .embedded) :
    ∃ runner, ((freshPanel surroundings options).after
        (preparation options code)).playground.python = .embedded runner ∧
      runner.embedded.settings = options.settings.interpreter ∧ runner.heard = none ∧
      runner.embedded.life =
        .loaded (Panel.settledProgram options.settings surroundings.fetch) := by
  refine ⟨_, Panel.after_embedded options.settings surroundings.fetch surroundings.deliveries ""
    mode (preparation options code), rfl, rfl, ?_⟩
  have mounted : Panel.Step.mount ∈ preparation options code := List.mem_cons_self
  simp only [Panel.embeddedAfter, if_pos mounted]

/-- The interpreter of a command has failed before the run exactly if it is embedded and cannot be
loaded. -/
theorem hasFailed_iff :
    Backend.hasFailed (panel surroundings options code).playground.python = true ↔
      options.pythonMode = .embedded ∧
        Panel.settledProgram options.settings surroundings.fetch = none := by
  rw [panel_eq]
  cases mode : options.pythonMode with
  | remote =>
    obtain ⟨remote, backend, -⟩ := remote_prepared surroundings options code mode
    rw [backend]
    simp [Backend.hasFailed]
  | embedded =>
    obtain ⟨runner, backend, -, -, life⟩ := embedded_prepared surroundings options code mode
    rw [backend, Backend.hasFailed, Embedded.stage, life]
    cases Panel.settledProgram options.settings surroundings.fetch <;>
      simp [Lifecycle.loaded, Lifecycle.outcomeStage]

/-- A command whose interpreter cannot be loaded prints what the mount wrote, and runs nothing. -/
theorem session_of_loadFails (fails : LoadFails surroundings options) :
    session surroundings options code =
      { status := failureStatus, output := Embedded.loadFailureText ++ "\n" } := by
  obtain ⟨python, embedded, unloaded⟩ := fails
  have failed := (hasFailed_iff surroundings options code).mpr ⟨embedded, unloaded⟩
  have shown : (panel surroundings options code).output = Embedded.loadFailureText :=
    (Panel.output_mount options.settings surroundings.fetch surroundings.deliveries ""
      [.setCode code, .select options.language]).trans
      (if_pos ⟨by simp, embedded, unloaded⟩)
  have line : printed Embedded.loadFailureText = Embedded.loadFailureText ++ "\n" := rfl
  rw [session, if_pos ⟨python, failed⟩, shown, line]

/-- Any other command prints the text of its run. -/
theorem session_of_loaded (loads : ¬LoadFails surroundings options) :
    session surroundings options code =
      { status := successStatus
        output := printed (runText surroundings options code)
        arrived :=
          Backend.arrived ((panel surroundings options code).run 0).2.playground.python } := by
  have unfailed : ¬(options.language = .python ∧
      Backend.hasFailed (panel surroundings options code).playground.python = true) := by
    rintro ⟨python, failed⟩
    exact loads ⟨python, (hasFailed_iff surroundings options code).mp failed⟩
  rw [session, if_neg unfailed]
  rfl

/-- The run of a command hands its snippet to the playground, in the language that was selected. -/
theorem runText_eq : runText surroundings options code =
    (((freshPanel surroundings options).after (preparation options code)).playground.run 0
      options.language code).output :=
  congrArg Playground.output (Panel.after_run { Playground.ofSettings options.settings
    surroundings.fetch surroundings.deliveries with output := "" } (preparation options code) 0)

/-- A script shows what comes of its evaluation, whatever the options say of Python. -/
theorem runText_script (script : options.language = .javascript) :
    runText surroundings options code =
      (Script.evaluate options.settings.script code).render 0 := by
  rw [runText_eq, script, Playground.output_run_javascript, Panel.after_script]
  rfl

/-- A remote snippet shows what becomes of the first request. -/
theorem runText_remote (python : options.language = .python) (mode : options.pythonMode = .remote) :
    runText surroundings options code =
      (surroundings.deliveries.head?.getD Remote.refusal).text := by
  obtain ⟨remote, backend, left⟩ := remote_prepared surroundings options code mode
  rw [runText_eq, python, Playground.output_run_remote _ backend, Remote.next, left]

/-- A snippet in an embedded interpreter shows what its own guest came to. -/
theorem runText_embedded (python : options.language = .python)
    (mode : options.pythonMode = .embedded) {program : Guest.Program}
    (given : Panel.settledProgram options.settings surroundings.fetch = some program) :
    runText surroundings options code =
      (SourceRun.ofResult (program.run options.settings.interpreter code)).text := by
  obtain ⟨runner, backend, settings, feeding, life⟩ :=
    embedded_prepared surroundings options code mode
  rw [given] at life
  rw [runText_eq, python, Playground.run_of_loaded _ backend life, settings,
    Playground.output_concluded _ feeding]

/-! ## The command -/

/-- What a command with options and a snippet leaves behind. -/
structure OneRun (surroundings : Surroundings) (options : Options) (code : String)
    (outcome : Outcome) : Prop where
  /-- The command fails exactly if the interpreter of its Python snippet cannot be loaded. -/
  failed : outcome.status = 1 ↔ LoadFails surroundings options
  /-- In every other case it succeeds, whatever the snippet comes to. -/
  succeeded : outcome.status = 0 ↔ ¬LoadFails surroundings options
  /-- A command that fails prints what the mount wrote; its snippet makes no difference. -/
  unrun : LoadFails surroundings options → outcome.output = Embedded.loadFailureText ++ "\n" ∧
    outcome.arrived = [] ∧ ∀ other, session surroundings options other = outcome
  /-- Any other command prints the text of its run. -/
  shown : ¬LoadFails surroundings options →
    PrintedAs (runText surroundings options code) outcome.output
  /-- The text of a script is what comes of its evaluation. -/
  script : options.language = .javascript → runText surroundings options code =
    (Script.evaluate options.settings.script code).render 0
  /-- The text of a remote snippet is what becomes of its request. -/
  remote : options.language = .python → options.pythonMode = .remote →
    runText surroundings options code = (surroundings.deliveries.head?.getD Remote.refusal).text
  /-- The text of a snippet in an embedded interpreter is what its guest came to. -/
  embedded : options.language = .python → options.pythonMode = .embedded → ∀ program,
    Panel.settledProgram options.settings surroundings.fetch = some program →
    runText surroundings options code =
      (SourceRun.ofResult (program.run options.settings.interpreter code)).text
  /-- A script ends the same in any surroundings and under any options with its own time limit. -/
  alike : options.language = .javascript → ∀ (others : Surroundings) (arguments : List String)
    (changed : Options), read arguments = .ok changed → Holds others changed code →
    changed.language = .javascript → changed.scriptTimeout = options.scriptTimeout →
    (run others arguments).status = outcome.status ∧
      (run others arguments).output = outcome.output

/-- No interpreter is needed for a script. -/
theorem loads_of_script {surroundings : Surroundings} {options : Options}
    (script : options.language = .javascript) : ¬LoadFails surroundings options := by
  rintro ⟨python, -, -⟩
  rw [script] at python
  cases python

/-- A command prints and reports what a session of one run does. -/
theorem command_is_one_run {surroundings : Surroundings} {arguments : List String}
    {options : Options} {code : String} (valid : read arguments = .ok options)
    (holds : Holds surroundings options code) :
    OneRun surroundings options code (run surroundings arguments) := by
  have fails := session_of_loadFails surroundings options
  have loads := session_of_loaded surroundings options code
  rw [run_eq_session valid holds]
  refine ⟨?_, ?_, ?_, ?_, runText_script _ _ _, runText_remote _ _ _,
    fun python mode _ => runText_embedded _ _ _ python mode, ?_⟩
  · by_cases failing : LoadFails surroundings options
    · rw [fails code failing]
      exact iff_of_true rfl failing
    · rw [loads failing]
      exact iff_of_false Nat.zero_ne_one failing
  · by_cases failing : LoadFails surroundings options
    · rw [fails code failing]
      exact iff_of_false Nat.one_ne_zero (not_not.mpr failing)
    · rw [loads failing]
      exact iff_of_true rfl failing
  · intro failing
    rw [fails code failing]
    exact ⟨rfl, rfl, fun other => fails other failing⟩
  · intro loading
    rw [loads loading]
    exact printedAs_printed _
  · intro script others arguments changed validChanged holdsChanged scriptChanged limit
    have settings : changed.settings.script = options.settings.script :=
      congrArg (fun timeout : Option Nat => ({ timeout := timeout.map TimeSpan.ofMillis } :
        ScriptSettings)) limit
    rw [run_eq_session validChanged holdsChanged, loads (loads_of_script script),
      session_of_loaded others changed code (loads_of_script scriptChanged)]
    refine ⟨rfl, ?_⟩
    rw [runText_script _ _ _ scriptChanged, runText_script _ _ _ script, settings]

/-- Surroundings with a script in the input and no interpreter anywhere. -/
def scriptInput : Surroundings :=
  { Surroundings.nothing with input := Text.Utf8.bytes "return 'ü'" }

/-- A script with a mount that fails ends as it does without one. -/
theorem command_is_one_run_failed_mount :
    let arguments := ["--python-mode", "embedded", "--index-url", "nowhere.wasm", "-ljs"]
    let options : Options := { pythonMode := .embedded, location := "nowhere.wasm" }
    read arguments = .ok options ∧
      Panel.settledProgram options.settings scriptInput.fetch = none ∧
      Holds scriptInput options "return 'ü'" ∧ (run scriptInput arguments).status = 0 ∧
      (run scriptInput []).output = (run scriptInput arguments).output := by
  intro arguments options
  have valid : read arguments = .ok options := by decide +kernel
  have unset : read [] = .ok {} := rfl
  have holds : Holds scriptInput options "return 'ü'" := rfl
  have one := command_is_one_run valid holds
  refine ⟨valid, by decide +kernel, holds, ?_, ?_⟩
  · exact one.succeeded.mpr (loads_of_script rfl)
  · exact (one.alike rfl scriptInput [] {} unset rfl rfl rfl).2

end Scratchpad.CommandLine
