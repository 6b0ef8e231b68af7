import Scratchpad.Proofs.Script.Evaluations
import Scratchpad.Script.Evaluation
import Scratchpad.Script.Runners

/-!
# What the two ways to run a snippet come to

Once there is a runtime, an evaluation panics for one reason only: its time limit ends beyond the
clock. The log is never asked for while it is taken, and what the engine cannot be given is a
failure with a text. So the two runners show the same of a snippet that the clock does not touch,
unless the clock is too short for one of them; then the blocking one does not return, and the other
one shows that a thread was lost.
-/
namespace Scratchpad.Script

variable {engine : Engine} {start : Start} {settings : ScriptSettings}

/-! ## The clock -/

/-- The time limit of a run that begins at a start, if it has one, ends on the clock. -/
def OnClock (start : Start) (settings : ScriptSettings) : Prop :=
  ∀ limit, settings.timeout = some limit →
    start.now.totalNanos + limit.totalNanos < clockEnd * nanosPerSecond

/-- A time limit goes beyond the end of the clock exactly if its sum with the time does. -/
theorem deadline?_isNone (now limit : TimeSpan) : (deadline? now limit).isNone = true ↔
    clockEnd * nanosPerSecond ≤ now.totalNanos + limit.totalNanos := by
  have carried : now.totalNanos + limit.totalNanos =
      nanosPerSecond * (now.secs + limit.secs) + (now.nanos + limit.nanos) := by
    rw [TimeSpan.totalNanos, TimeSpan.totalNanos, nanosPerSecond]
    omega
  have whole : (now.totalNanos + limit.totalNanos) / nanosPerSecond =
      now.secs + limit.secs + (now.nanos + limit.nanos) / nanosPerSecond := by
    rw [carried, Nat.mul_add_div (by decide)]
  rw [← Nat.le_div_iff_mul_le (by decide), whole, deadline?]
  split
  · simp only [Option.isNone_some, Bool.false_eq_true, false_iff]
    omega
  · simp only [Option.isNone_none, true_iff]
    omega

/-- A run is late exactly if its time limit does not end on the clock. -/
theorem isLate_iff (start : Start) (settings : ScriptSettings) :
    start.isLate settings = true ↔ ¬OnClock start settings := by
  rw [Start.isLate, Option.any_eq_true, OnClock, Classical.not_forall]
  refine exists_congr fun limit => ?_
  rw [deadline?_isNone, Classical.not_imp, Nat.not_lt]

/-! ## Evaluations by what the engine gives -/

/-- What comes of a snippet in a runtime, if the engine may look at the clock so many times. -/
def evaluateIn (engine : Engine) (runtime : engine.Runtime) (turns : Option Nat)
    (settings : ScriptSettings) (code : String) : Evaluation :=
  match engine.openContext runtime settings.maxMemory turns with
  | .error text => .failed (setupFailure text)
  | .ok state => .ofOutcome (engine.runSnippet code state {})

/-- An engine without a runtime fails. -/
theorem evaluate_unprovided {text : String} (unprovided : engine.newRuntime = .error text)
    (code : String) : engine.evaluate start settings code = .failed (setupFailure text) := by
  rw [Engine.evaluate, Engine.opened, unprovided]

/-- An evaluation whose time limit ends beyond the clock panics. -/
theorem evaluate_beyond {runtime : engine.Runtime} (provided : engine.newRuntime = .ok runtime)
    (beyond : ¬OnClock start settings) (code : String) :
    engine.evaluate start settings code = .panicked overflowText := by
  have late : start.isLate settings = true := (isLate_iff start settings).mpr beyond
  rw [Engine.evaluate, Engine.opened, provided]
  dsimp only
  rw [if_pos late]

/-- Any other evaluation is that of its snippet in the runtime. -/
theorem evaluate_within {runtime : engine.Runtime} (provided : engine.newRuntime = .ok runtime)
    (within : OnClock start settings) (code : String) :
    engine.evaluate start settings code =
      evaluateIn engine runtime (start.turns? settings) settings code := by
  have early : ¬start.isLate settings = true := fun late =>
    (isLate_iff start settings).mp late within
  rw [Engine.evaluate, Engine.opened, provided]
  dsimp only
  rw [if_neg early, evaluateIn]
  cases engine.openContext runtime settings.maxMemory (start.turns? settings) <;> rfl

/-- The text of a completion, or of a failure to set an engine up. -/
def IsPanelText (text : String) : Prop :=
  (∃ completion : Completion, text = completion.render) ∨
    ∃ reason, text = "Error: " ++ (setupFailure reason).message

/-- An evaluation comes to a text unless there is a runtime and the time limit ends beyond the
clock. -/
theorem text?_of_onClock
    (within : ∀ runtime, engine.newRuntime = .ok runtime → OnClock start settings)
    (code : String) :
    ∃ text, (engine.evaluate start settings code).text? = .ok text ∧ IsPanelText text := by
  cases provided : engine.newRuntime with
  | error reason =>
    rw [evaluate_unprovided provided]
    exact ⟨_, rfl, .inr ⟨reason, rfl⟩⟩
  | ok runtime =>
    have early : ¬start.isLate settings = true := fun late =>
      (isLate_iff start settings).mp late (within runtime provided)
    cases context : engine.openContext runtime settings.maxMemory (start.turns? settings) with
    | error reason =>
      rw [evaluate_within provided (within runtime provided), evaluateIn, context]
      exact ⟨_, rfl, .inr ⟨reason, rfl⟩⟩
    | ok state =>
      have opened : engine.opened start settings = .ok state := by
        rw [Engine.opened, provided]
        dsimp only
        rw [if_neg early, context]
      obtain ⟨fault, _, _, _, failed⟩ | ⟨console, made, _, first, makes, _⟩ :=
        opened_cases opened code
      · rw [failed]
        exact ⟨_, rfl, .inr ⟨_, rfl⟩⟩
      · obtain ⟨_, last, completion, _, concludes⟩ := exists_concludes code console made first
        have completes : CompletesAs engine start settings code completion { lines := last } :=
          ⟨state, console, made, _, opened, makes, concludes⟩
        rw [completes.eq.1]
        exact ⟨_, rfl, .inl ⟨completion, rfl⟩⟩

/-! ## The runners -/

/-- Two runs of a snippet come to the same in every runtime, whatever the clock leaves to each of
them. -/
def Unclocked (engine : Engine) (first second : Start) (settings : ScriptSettings)
    (code : String) : Prop :=
  ∀ runtime, engine.newRuntime = .ok runtime →
    evaluateIn engine runtime (first.turns? settings) settings code =
      evaluateIn engine runtime (second.turns? settings) settings code

/-- The two runners show the same text of a snippet, and nothing but a text comes of it. -/
structure AgreeUnharmed (engine : Engine) (first second : Start) (thread : Nat)
    (settings : ScriptSettings) (code : String) : Prop where
  /-- The blocking runner returns the text that the other one returns. -/
  same : engine.runBlocking first settings code =
    .ok (engine.runPooled second thread settings code)
  /-- The thread of the pool does not panic. -/
  unharmed : ∀ message, engine.evaluate second settings code ≠ .panicked message
  /-- The text is that of a completion, or tells of an engine that could not be set up. -/
  told : IsPanelText (engine.runPooled second thread settings code)

/-- The runners agree on a snippet that the clock does not touch exactly if the time limits of both
runs end on the clock, or the engine has no runtime. Beyond the clock the blocking runner panics,
and the other one shows a lost thread. -/
theorem runners_agree_iff_on_clock {code : String} {first second : Start}
    (unclocked : Unclocked engine first second settings code) (thread : Nat) :
    (AgreeUnharmed engine first second thread settings code ↔
      ∀ runtime, engine.newRuntime = .ok runtime →
        OnClock first settings ∧ OnClock second settings) ∧
    ∀ runtime, engine.newRuntime = .ok runtime →
      (¬OnClock first settings →
        engine.runBlocking first settings code = .error overflowText) ∧
      (¬OnClock second settings →
        engine.runPooled second thread settings code = "Error: task " ++ toString thread ++
          " panicked with message \"" ++ overflowText ++ "\"") := by
  have thrown {runtime : engine.Runtime} (provided : engine.newRuntime = .ok runtime)
      (beyond : ¬OnClock first settings) :
      engine.runBlocking first settings code = .error overflowText := by
    rw [Engine.runBlocking, evaluate_beyond provided beyond]
    rfl
  refine ⟨⟨?agreed, ?within⟩, fun runtime provided => ⟨thrown provided, ?lost⟩⟩
  case agreed =>
    rintro ⟨same, unharmed, -⟩ runtime provided
    constructor
    · refine Classical.byContradiction fun beyond => ?_
      cases same.symm.trans (thrown provided beyond)
    · refine Classical.byContradiction fun beyond => ?_
      exact unharmed overflowText (evaluate_beyond provided beyond code)
  case within =>
    intro within
    have alike : engine.evaluate first settings code = engine.evaluate second settings code := by
      cases provided : engine.newRuntime with
      | error text => rw [evaluate_unprovided provided, evaluate_unprovided provided]
      | ok runtime =>
        obtain ⟨withinFirst, withinSecond⟩ := within runtime provided
        rw [evaluate_within provided withinFirst, evaluate_within provided withinSecond,
          unclocked runtime provided]
    obtain ⟨text, ended, told⟩ :=
      text?_of_onClock (fun runtime provided => (within runtime provided).2) code
    have shown : engine.runPooled second thread settings code = text := by
      rw [Engine.runPooled, Evaluation.render, ended]
      rfl
    refine ⟨?_, ?_, ?_⟩
    · rw [Engine.runBlocking, alike, ended, shown]
    · intro message panicked
      rw [panicked] at ended
      cases ended
    · rwa [shown]
  case lost =>
    intro beyond
    rw [Engine.runPooled, evaluate_beyond provided beyond]
    rfl

/-- The runners agree although one of them begins in the last second of the clock and is left twice
as much of it. -/
theorem runners_agree_iff_on_clock_last_second :
    let settings : ScriptSettings :=
      { timeout := some (.ofMillis 250), maxMemory := some 16777216 }
    let first : Start := { now := ⟨7, 999999999⟩, turns := leastTicks }
    let second : Start := { now := ⟨clockEnd - 1, 749999999⟩, turns := 2 * leastTicks }
    Unclocked Walker.engine first second settings "return 'x'" ∧
      AgreeUnharmed Walker.engine first second 3 settings "return 'x'" ∧
      Walker.engine.runPooled second 3 settings "return 'x'" = "x" := by
  intro settings first second
  have ended (turns : Nat) (either : turns = leastTicks ∨ turns = 2 * leastTicks) :
      evaluateIn Walker.engine () (some turns) settings "return 'x'" =
        .completed (.returned (some "x")) := by
    obtain rfl | rfl := either <;> decide +kernel
  have early : OnClock first settings := by
    rintro limit ⟨⟩
    decide
  have late : OnClock second settings := by
    rintro limit ⟨⟩
    decide
  have unclocked : Unclocked Walker.engine first second settings "return 'x'" :=
    fun _ _ => (ended leastTicks (.inl rfl)).trans (ended (2 * leastTicks) (.inr rfl)).symm
  have agree := (runners_agree_iff_on_clock unclocked 3).1.mpr fun _ _ => ⟨early, late⟩
  refine ⟨unclocked, agree, ?_⟩
  have shown : Walker.engine.evaluate second settings "return 'x'" =
      .completed (.returned (some "x")) :=
    (evaluate_within rfl late "return 'x'").trans (ended (2 * leastTicks) (.inr rfl))
  rw [Engine.runPooled, shown]
  rfl

/-- A time limit as long as the clock: the blocking runner does not return, and the other one shows
a lost thread. -/
theorem runners_part_beyond_clock :
    let settings : ScriptSettings := { timeout := some ⟨clockEnd, 0⟩ }
    let start := Start.first settings
    Unclocked Walker.engine start start settings "return 1" ∧
      Walker.engine.runBlocking start settings "return 1" =
        .error "overflow when adding duration to instant" ∧
      Walker.engine.runPooled start 12 settings "return 1" =
        "Error: task 12 panicked with message \"overflow when adding duration to instant\"" := by
  intro settings start
  have beyond : ¬OnClock start settings := fun within => absurd (within _ rfl) (by decide)
  have panicked : Walker.engine.evaluate start settings "return 1" = .panicked overflowText :=
    evaluate_beyond rfl beyond "return 1"
  refine ⟨fun _ _ => rfl, ?_, ?_⟩
  · rw [Engine.runBlocking, panicked]
    rfl
  · rw [Engine.runPooled, panicked]
    decide +kernel

end Scratchpad.Script
