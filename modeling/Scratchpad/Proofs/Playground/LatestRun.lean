import Scratchpad.Playground.History
import Scratchpad.Proofs.Playground.EmbeddedRun
import Scratchpad.Script.Runners

/-!
# The latest run of a panel

Whatever was done with a panel before, a run shows a text that depends on the language selected
last, the code as typed, and what the run itself came to. The invariants follow the Python runner
through a history: a remote one has answered as many requests as Python runs were made, and an
embedded one has either not been asked for or ended its only load. Between runs the output area
changes at most once, when the first mount fails.
-/
namespace Scratchpad

/-- What a panel shows of a request: the display text of the reply that the answer holds, or that
the service cannot be reached. -/
inductive Delivery.Displays : Delivery → String → Prop where
  | reply {body : List UInt8} {reply : Reply} : Reply.parse body = .ok reply →
      Displays (.answered body)
        (((reply.output.toList ++ reply.error.toList).find? (· ≠ "")).getD "")
  | unread {body : List UInt8} {failure : Failure} : Reply.parse body = .error failure →
      Displays (.answered body) unreachableText
  | lost (detail : String) : Displays (.lost detail) unreachableText
  | refused (detail : String) : Displays (.refused detail) unreachableText

/-- The text of a request is what is to be shown of it. -/
theorem Delivery.displays_text (delivery : Delivery) : delivery.Displays delivery.text := by
  cases delivery with
  | answered body =>
    cases parsed : Reply.parse body with
    | ok reply =>
      have shown : (Delivery.answered body).text = reply.text := by
        rw [Delivery.text, Delivery.reply, parsed]
      rw [shown, reply.text_eq_find]
      exact .reply parsed
    | error failure =>
      have shown : (Delivery.answered body).text = unreachableText := by
        rw [Delivery.text, Delivery.reply, parsed]
      rw [shown]
      exact .unread parsed
  | lost detail => exact .lost detail
  | refused detail => exact .refused detail

namespace Playground

variable {σ : Type} [Runner σ]

/-- A run of a script shows what comes of its evaluation, whatever runs Python. -/
theorem output_run_javascript (playground : Playground σ) (thread : Nat) (code : String) :
    (playground.run thread .javascript code).output =
      (Script.evaluate playground.script code).render thread := rfl

/-- A run of a Python snippet by the remote service is one request. -/
theorem run_remote (playground : Playground Backend) {remote : Remote}
    (backend : playground.python = .remote remote) (thread : Nat) (code : String) :
    playground.run thread .python code =
      playground.answered { replacement := some remote.next.text }
        (.remote (remote.run code).2) := by
  rw [Playground.run, Playground.answer, backend]
  rfl

/-- Whatever a playground showed before, a run by the remote service shows its reply. -/
theorem output_run_remote (playground : Playground Backend) {remote : Remote}
    (backend : playground.python = .remote remote) (thread : Nat) (code : String) :
    (playground.run thread .python code).output = remote.next.text := by
  rw [run_remote playground backend]
  rfl

/-- A run in an interpreter without a program leaves nothing in the output area. -/
theorem output_run_unloaded (playground : Playground Backend) {runner : EmbeddedRunner}
    (backend : playground.python = .embedded runner)
    (unloaded : runner.embedded.life.program? = none) (thread : Nat) (code : String) :
    (playground.run thread .python code).output = "" := by
  rw [run_embedded playground backend, Embedded.runSource, unloaded, EmbeddedRunner.answer,
    EmbeddedRunner.deliver]
  cases heard : runner.heard with
  | none => rfl
  | some lines => rfl

end Playground

namespace Panel

section Selection

variable {σ : Type} [Runner σ]

/-- After a history the panel has the language that was selected last. -/
theorem after_language (playground : Playground σ) (history : List Step) :
    ((ofPlayground playground).after history).language = lastSelected history := by
  induction history with
  | nil => rfl
  | cons latest earlier ih =>
    cases latest with
    | select language => rfl
    | setCode code => exact ih
    | typeText text => exact ih
    | mount => exact ih
    | run thread => exact ih

/-- After a history the panel has the code as it was typed. -/
theorem after_code (playground : Playground σ) (history : List Step) :
    ((ofPlayground playground).after history).code = typed history := by
  induction history with
  | nil => rfl
  | cons latest earlier ih =>
    cases latest with
    | select language => exact ih
    | setCode code => rfl
    | typeText text => exact congrArg (· ++ text) ih
    | mount => exact ih
    | run thread => exact ih

/-- No operation changes the settings of scripts. -/
theorem after_script (panel : Panel σ) (history : List Step) :
    (panel.after history).playground.script = panel.playground.script := by
  induction history with
  | nil => rfl
  | cons latest earlier ih => cases latest <;> exact ih

/-- A run hands the playground the language selected last and the code as typed. -/
theorem after_run (playground : Playground σ) (history : List Step) (thread : Nat) :
    (((ofPlayground playground).after history).run thread).2.playground =
      ((ofPlayground playground).after history).playground.run thread
        (lastSelected history) (typed history) := by
  change Playground.run _ thread (Panel.language _) (Panel.code _) = _
  rw [after_language, after_code]

end Selection

/-- A fresh panel on the playground that settings describe, whose output area may hold a text. -/
def fresh (settings : Settings) (fetch : String → Guest.Fetched) (deliveries : List Delivery)
    (output : Transcript) : Panel Backend :=
  ofPlayground { Playground.ofSettings settings fetch deliveries with output }

section Runners

variable (settings : Settings) (fetch : String → Guest.Fetched) (deliveries : List Delivery)
  (output : Transcript)

/-- After a history the remote service has as many answers less as there were Python runs. -/
theorem after_remote (mode : settings.pythonMode = .remote) (history : List Step) :
    ∃ remote, ((fresh settings fetch deliveries output).after history).playground.python =
      .remote remote ∧ remote.deliveries = deliveries.drop (pythonRuns history) := by
  induction history with
  | nil =>
    refine ⟨{ endpoint := settings.endpoint, deliveries }, ?_, rfl⟩
    change Backend.ofSettings settings fetch deliveries = _
    rw [Backend.ofSettings, mode]
  | cons latest earlier ih =>
    obtain ⟨remote, backend, left⟩ := ih
    cases latest with
    | select language => exact ⟨remote, backend, left⟩
    | setCode code => exact ⟨remote, backend, left⟩
    | typeText text => exact ⟨remote, backend, left⟩
    | mount =>
      refine ⟨remote, ?_, left⟩
      change (Playground.mount _).python = _
      rw [Playground.mount, backend]
      rfl
    | run thread =>
      have called := after_run { Playground.ofSettings settings fetch deliveries with output }
        earlier thread
      cases selected : lastSelected earlier with
      | javascript =>
        rw [selected] at called
        refine ⟨remote, (congrArg Playground.python called).trans backend, ?_⟩
        rw [left, pythonRuns, if_neg (by rw [selected]; decide)]
      | python =>
        rw [selected] at called
        refine ⟨(remote.run (typed earlier)).2, (congrArg Playground.python called).trans ?_, ?_⟩
        · exact congrArg Playground.python (Playground.run_remote _ backend thread (typed earlier))
        · rw [pythonRuns, if_pos selected, ← List.drop_drop, ← left]
          exact List.drop_one.symm

/-- The program that the place of the interpreter gives, if it gives one. -/
def settledProgram : Option Guest.Program :=
  (Guest.load settings.interpreter.location (fetch settings.interpreter.location)).toOption

/-- The embedded interpreter after a history: loaded if it was mounted, and untouched otherwise. -/
def embeddedAfter (history : List Step) : EmbeddedRunner where
  embedded := {
    settings := settings.interpreter
    fetched := fetch settings.interpreter.location
    life := if .mount ∈ history then .loaded (settledProgram settings fetch) else {} }

/-- After a history the embedded interpreter has been loaded exactly if it was mounted. -/
theorem after_embedded (mode : settings.pythonMode = .embedded) (history : List Step) :
    ((fresh settings fetch deliveries output).after history).playground.python =
      .embedded (embeddedAfter settings fetch history) := by
  induction history with
  | nil =>
    change Backend.ofSettings settings fetch deliveries = _
    rw [Backend.ofSettings, mode]
    rfl
  | cons latest earlier ih =>
    have unmounted : latest ≠ .mount → embeddedAfter settings fetch (latest :: earlier) =
        embeddedAfter settings fetch earlier := by
      intro other
      simp only [embeddedAfter, List.mem_cons, Ne.symm other, false_or]
    cases latest with
    | select language => rw [unmounted (by nofun)]; exact ih
    | setCode code => rw [unmounted (by nofun)]; exact ih
    | typeText text => rw [unmounted (by nofun)]; exact ih
    | mount =>
      change (Playground.mount _).python = _
      rw [Playground.mount, ih]
      by_cases mounted : Step.mount ∈ earlier
      · simp only [embeddedAfter, mounted, List.mem_cons, or_true, if_true]
        rfl
      · simp only [embeddedAfter, mounted, List.mem_cons, or_false, if_true, if_false]
        rfl
    | run thread =>
      have called := after_run { Playground.ofSettings settings fetch deliveries with output }
        earlier thread
      rw [unmounted (by nofun)]
      refine (congrArg Playground.python called).trans ?_
      cases lastSelected earlier with
      | javascript => exact ih
      | python =>
        refine (congrArg Playground.python
          (Playground.run_embedded _ ih thread (typed earlier))).trans ?_
        rw [EmbeddedRunner.answer_of_feeding rfl]
        rfl

/-- The stage of the interpreter after a history. -/
theorem stage_embeddedAfter (history : List Step) :
    (embeddedAfter settings fetch history).embedded.stage = .ready ↔
      Step.mount ∈ history ∧ ∃ program, settledProgram settings fetch = some program := by
  by_cases mounted : Step.mount ∈ history
  · have life : (embeddedAfter settings fetch history).embedded.life =
        .loaded (settledProgram settings fetch) := if_pos mounted
    rw [Embedded.stage, life]
    cases settledProgram settings fetch with
    | none => simp [Lifecycle.loaded, Lifecycle.outcomeStage]
    | some program => simp [Lifecycle.loaded, Lifecycle.outcomeStage, mounted]
  · have life : (embeddedAfter settings fetch history).embedded.life = {} := if_neg mounted
    rw [Embedded.stage, life]
    simp [mounted]

/-- Unless it is ready, the interpreter has no program after a history. -/
theorem program_embeddedAfter (history : List Step)
    (unready : (embeddedAfter settings fetch history).embedded.stage ≠ .ready) :
    (embeddedAfter settings fetch history).embedded.life.program? = none := by
  rw [ne_eq, stage_embeddedAfter, not_and_or] at unready
  by_cases mounted : Step.mount ∈ history
  · have life : (embeddedAfter settings fetch history).embedded.life =
        .loaded (settledProgram settings fetch) := if_pos mounted
    rw [life]
    cases given : settledProgram settings fetch with
    | none => rfl
    | some program => exact (unready.resolve_left (fun not => not mounted) ⟨program, given⟩).elim
  · have life : (embeddedAfter settings fetch history).embedded.life = {} := if_neg mounted
    rw [life]
    rfl

/-- What every run after a history shows, and what any other operation does to the output area.
Nothing here speaks of the output area before the run, or of what an earlier run came to. -/
structure ReflectsLatest (history : List Step) (panel : Panel Backend) : Prop where
  /-- The panel holds the language selected last and the code as it was typed. -/
  held : panel.language = lastSelected history ∧ panel.code = typed history
  /-- A run hands exactly these to the playground. -/
  called : ∀ thread, (panel.run thread).2.playground =
    panel.playground.run thread (lastSelected history) (typed history)
  /-- A run returns what the output area shows right after it. -/
  returned : ∀ thread, panel.runText thread = (panel.run thread).2.output
  /-- A script shows the text of the runner of scripts, whatever runs Python. -/
  script : lastSelected history = .javascript → ∀ thread, panel.runText thread =
    Script.Walker.engine.runPooled (.first settings.script) thread settings.script (typed history)
  /-- A remote run shows the display text of the reply to its own request, or that the service
  cannot be reached. -/
  remote : settings.pythonMode = .remote → lastSelected history = .python → ∀ thread,
    (deliveries[pythonRuns history]?.getD Remote.refusal).Displays (panel.runText thread)
  /-- An embedded run shows nothing unless the interpreter is ready. -/
  unready : settings.pythonMode = .embedded → ∃ runner,
    panel.playground.python = .embedded runner ∧
    (runner.embedded.stage = .ready ↔
      Step.mount ∈ history ∧ ∃ program, settledProgram settings fetch = some program) ∧
    (runner.embedded.stage ≠ .ready → lastSelected history = .python → ∀ thread,
      panel.runText thread = "")
  /-- In an interpreter that is ready, it shows what its own guest came to. -/
  ready : settings.pythonMode = .embedded → Step.mount ∈ history →
    lastSelected history = .python → ∀ program, settledProgram settings fetch = some program →
    ∀ thread,
      let run := SourceRun.ofResult (program.run settings.interpreter (typed history))
      panel.runText thread = run.text ∧
        Concludes (program.run settings.interpreter (typed history)) run.lines
          (panel.runText thread)
  /-- Any other operation leaves the output area alone, except the first mount if it fails. -/
  kept : ∀ other, (∀ thread, other ≠ .run thread) → (panel.step other).output =
    if other = .mount ∧ Step.mount ∉ history ∧ settings.pythonMode = .embedded ∧
      settledProgram settings fetch = none
    then Embedded.loadFailureText else panel.output

/-- A mount writes to the output area only if it is the first one and fails. -/
theorem output_mount (history : List Step) :
    ((fresh settings fetch deliveries output).after history).mount.output =
      if Step.mount ∉ history ∧ settings.pythonMode = .embedded ∧
        settledProgram settings fetch = none
      then Embedded.loadFailureText
      else ((fresh settings fetch deliveries output).after history).output := by
  change (Playground.mount _).output = _
  cases mode : settings.pythonMode with
  | remote =>
    obtain ⟨remote, backend, _⟩ := after_remote settings fetch deliveries output mode history
    rw [Playground.mount, backend, if_neg (by simp)]
    rfl
  | embedded =>
    rw [Playground.mount, after_embedded settings fetch deliveries output mode history]
    by_cases mounted : Step.mount ∈ history
    · rw [if_neg (fun first => first.1 mounted)]
      simp only [embeddedAfter, mounted, if_true]
      rfl
    · have cell : (embeddedAfter settings fetch history).embedded.life.cell = none := by
        simp only [embeddedAfter, mounted, if_false]
      cases given : settledProgram settings fetch with
      | none =>
        have outcome : (embeddedAfter settings fetch history).embedded.outcome = none := given
        rw [if_pos ⟨mounted, rfl, rfl⟩]
        simp only [Runner.mount, EmbeddedRunner.load, Embedded.load, outcome, cell]
        rfl
      | some program =>
        have outcome : (embeddedAfter settings fetch history).embedded.outcome = some program :=
          given
        rw [if_neg (by simp)]
        simp only [Runner.mount, EmbeddedRunner.load, Embedded.load, outcome, cell]
        rfl

/-- A panel shows of every run what the latest one came to, whatever its history is. -/
theorem panel_reflects_latest_run (history : List Step) :
    ReflectsLatest settings fetch deliveries history
      ((fresh settings fetch deliveries output).after history) := by
  have called := after_run { Playground.ofSettings settings fetch deliveries with output } history
  have shown (thread : Nat) : ((fresh settings fetch deliveries output).after history).runText
      thread = (((fresh settings fetch deliveries output).after history).playground.run thread
        (lastSelected history) (typed history)).output :=
    congrArg Playground.output (called thread)
  constructor
  · exact ⟨after_language _ history, after_code _ history⟩
  · exact called
  · intro thread
    rfl
  · intro selected thread
    rw [shown, selected, Playground.output_run_javascript, after_script]
    rfl
  · intro mode selected thread
    obtain ⟨remote, backend, left⟩ := after_remote settings fetch deliveries output mode history
    rw [shown, selected, Playground.output_run_remote _ backend, Remote.next, left,
      List.head?_drop]
    exact Delivery.displays_text _
  · intro mode
    have backend := after_embedded settings fetch deliveries output mode history
    refine ⟨_, backend, stage_embeddedAfter settings fetch history, ?_⟩
    intro unready selected thread
    rw [shown, selected]
    exact Playground.output_run_unloaded _ backend
      (program_embeddedAfter settings fetch history unready) thread (typed history)
  · intro mode mounted selected program given thread
    have backend := after_embedded settings fetch deliveries output mode history
    have life : (embeddedAfter settings fetch history).embedded.life = .loaded (some program) := by
      rw [← given]
      exact if_pos mounted
    have text : ((fresh settings fetch deliveries output).after history).runText thread =
        (SourceRun.ofResult (program.run settings.interpreter (typed history))).text := by
      rw [shown, selected, Playground.run_of_loaded _ backend life]
      exact Playground.output_concluded _ rfl _
    refine ⟨text, ?_⟩
    rw [text]
    exact SourceRun.concludes_ofResult _ (program.run_reached settings.interpreter _)
  · intro other resting
    cases other with
    | select language => rw [if_neg (by simp)]; rfl
    | setCode code => rw [if_neg (by simp)]; rfl
    | typeText text => rw [if_neg (by simp)]; rfl
    | mount =>
      refine (output_mount settings fetch deliveries output history).trans ?_
      simp only [true_and]
    | run thread => exact absurd rfl (resting thread)

end Runners

/-- A panel whose first remote run was answered and whose second one is not: the second one shows
nothing of the first, and is asked for the code as it was typed meanwhile. -/
theorem panel_reflects_latest_run_remote :
    let settings : Settings := { pythonMode := .remote }
    let deliveries : List Delivery :=
      [.answered (Text.Utf8.bytes "\x7b\"output\": \"1\"\x7d"), .lost "timed out"]
    let earlier : List Step := [.mount, .setCode "print(1", .select .python]
    let history : List Step := .typeText "+2)" :: .run 1 :: earlier
    let panel := (fresh settings (fun _ => .absent) deliveries "stale").after history
    ReflectsLatest settings (fun _ => .absent) deliveries history panel ∧
      ((fresh settings (fun _ => .absent) deliveries "stale").after earlier).runText 1 = "1" ∧
      panel.output = "1" ∧ panel.code = "print(1+2)" ∧
      panel.runText 2 = "Error: Could not reach backend server." := by
  intro settings deliveries earlier history panel
  have reflects := panel_reflects_latest_run settings (fun _ => .absent) deliveries "stale"
  have first : ((fresh settings (fun _ => .absent) deliveries "stale").after earlier).runText 1 =
      "1" := by decide +kernel
  have second := (reflects history).remote rfl rfl 2
  refine ⟨reflects history, first, ?_, (reflects history).held.2, ?_⟩
  · exact ((reflects earlier).returned 1).symm.trans first
  · generalize panel.runText 2 = shown at second ⊢
    cases second
    rfl

end Panel

end Scratchpad
