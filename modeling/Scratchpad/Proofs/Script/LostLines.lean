import Scratchpad.Proofs.Script.Evaluations
import Scratchpad.Script.Evaluation

/-!
# Lines that the conversion of a result writes

Whether a snippet shows its lines or what it returned is decided once, when its function has
returned. A value is converted after that, by code of the snippet if it is an object, and this code
has the console too: its lines reach the log, where nobody looks for them any more.
-/
namespace Scratchpad.Script

variable {engine : Engine} {start : Start} {settings : ScriptSettings} {code : String}

/-- A value is all that comes of a snippet: the function returned it without a line in the log, and
its conversion left a log. -/
inductive ShownWith (engine : Engine) (start : Start) (settings : ScriptSettings) (code : String)
    (last : Log) : Option String → Prop where
  | absent {state made after : engine.State} {console value : engine.Value} {log : Log} :
      engine.opened start settings = .ok state → MakesConsole engine state console made log →
      Invokes engine code console made log (.done value after {}) →
      engine.isUndefined value = true → last = {} → ShownWith engine start settings code last none
  | text {state made middle after : engine.State} {console value : engine.Value} {log : Log}
      {text : String} :
      engine.opened start settings = .ok state → MakesConsole engine state console made log →
      Invokes engine code console made log (.done value middle {}) →
      engine.isUndefined value = false →
      Converts engine value middle {} (.done text after last) →
      ShownWith engine start settings code last (some text)

/-- A value is all that comes of a snippet exactly if it is shown with the last log. -/
theorem completesAs_returned_iff {text : Option String} {last : Log} :
    CompletesAs engine start settings code (.returned text) last ↔
      ShownWith engine start settings code last text := by
  constructor
  · rintro ⟨state, console, made, log, opened, makes, concludes⟩
    cases concludes with
    | absent invokes undefined => exact .absent opened makes invokes undefined rfl
    | returned invokes defined converts => exact .text opened makes invokes defined converts
  · intro shown
    cases shown with
    | absent opened makes invokes undefined same =>
      subst same
      exact ⟨_, _, _, _, opened, makes, .absent invokes undefined⟩
    | text opened makes invokes defined converts =>
      exact ⟨_, _, _, _, opened, makes, .returned invokes defined converts⟩

/-- A snippet is no more than its value only if no line was recorded in its whole evaluation. -/
def ReturnsUnwritten (engine : Engine) (start : Start) (settings : ScriptSettings)
    (code : String) : Prop :=
  ∀ text, engine.evaluate start settings code = .completed (.returned text) →
    finalLog? engine start settings code = some {}

/-- A snippet that does not throw and in whose whole evaluation lines were recorded shows all of
them in order. -/
def ShowsWritten (engine : Engine) (start : Start) (settings : ScriptSettings)
    (code : String) : Prop :=
  ∀ completion lines, engine.evaluate start settings code = .completed completion →
    (∀ message, completion ≠ .threw message) →
    finalLog? engine start settings code = some { lines } → lines ≠ #[] →
    completion = .logged (lines.toList.map ConsoleLine.text)

/-- The conversion of the value that a snippet shows, if it shows one, writes no line. -/
def ShownSilently (engine : Engine) (start : Start) (settings : ScriptSettings)
    (code : String) : Prop :=
  ∀ text last, ShownWith engine start settings code last text → last = {}

/-- A snippet is no more than its value only if no line was recorded exactly if the conversion of
the value writes none. -/
theorem returnsUnwritten_iff : ReturnsUnwritten engine start settings code ↔
    ShownSilently engine start settings code := by
  constructor
  · intro unwritten text last shown
    obtain ⟨returned, left⟩ := (completesAs_returned_iff.mpr shown).eq
    exact Option.some.inj (left.symm.trans (unwritten text returned))
  · intro silent text returned
    obtain ⟨lines, completes⟩ := completesAs_of_completed returned
    rw [completes.eq.2, silent text _ (completesAs_returned_iff.mp completes)]

/-- All recorded lines are shown exactly if the conversion of a value that is shown writes none. -/
theorem showsWritten_iff : ShowsWritten engine start settings code ↔
    ShownSilently engine start settings code := by
  constructor
  · intro shows text last shown
    have completes := completesAs_returned_iff.mpr shown
    obtain ⟨lines, again⟩ := completesAs_of_completed completes.eq.1
    have same : last = { lines } := Option.some.inj (completes.eq.2.symm.trans again.eq.2)
    by_cases none : lines = #[]
    · rw [same, none]
    · have logged := shows _ lines completes.eq.1 nofun again.eq.2 none
      cases logged
  · intro silent completion lines completed unthrown left written
    obtain ⟨last, completes⟩ := completesAs_of_completed completed
    cases completes.eq.2.symm.trans left
    cases completion with
    | logged shown =>
      obtain ⟨_, _, _, _, _, _, concludes⟩ := completes
      cases concludes
      rfl
    | returned text =>
      have kept := silent text _ (completesAs_returned_iff.mp completes)
      exact absurd (congrArg Log.lines kept) written
    | threw message => exact absurd rfl (unthrown message)

/-- No line is lost behind a returned value exactly if the conversion of the value writes none; and
the lines that are in the log behind a value that is shown are those of its conversion. -/
theorem no_line_lost_iff_shown_silently (engine : Engine) (start : Start)
    (settings : ScriptSettings) (code : String) :
    (ReturnsUnwritten engine start settings code ↔ ShownSilently engine start settings code) ∧
    (ShowsWritten engine start settings code ↔ ShownSilently engine start settings code) ∧
    ∀ text, engine.evaluate start settings code = .completed (.returned text) ↔
      ∃ (calls : List (Call engine)) (lines : Array ConsoleLine),
        ShownWith engine start settings code { lines } text ∧ Records calls #[] lines ∧
        finalLog? engine start settings code = some { lines } := by
  refine ⟨returnsUnwritten_iff, showsWritten_iff, fun text => ?_⟩
  constructor
  · intro returned
    obtain ⟨lines, completes⟩ := completesAs_of_completed returned
    have shown := completesAs_returned_iff.mp completes
    cases id shown with
    | absent _ _ _ _ same =>
      cases same
      exact ⟨[], #[], shown, .none, completes.eq.2⟩
    | @text _ _ middle _ _ value _ _ _ _ _ _ converts =>
      obtain ⟨calls, last, records, ⟨_, _, same⟩ | ⟨_, _, other⟩⟩ :=
        exists_converts value middle #[]
      · cases converts.eq.symm.trans same.eq
        exact ⟨calls, lines, shown, records, completes.eq.2⟩
      · cases converts.eq.symm.trans other.eq
  · rintro ⟨_, lines, shown, -, -⟩
    exact (completesAs_returned_iff.mpr shown).eq.1

/-- A snippet whose value writes a line while it is converted: nothing had been written when the
function returned, so the converted value is all that is shown, and the line stays in the log. -/
theorem returned_value_hides_line :
    let code := "return \x7b toString() \x7b console.log('lost'); return 'shown'; \x7d \x7d;"
    evaluate {} code = .completed (.returned (some "shown")) ∧
      finalLog? Walker.engine (.first {}) {} code =
        some { lines := #[{ level := .log, message := "lost" }] } := by
  decide +kernel

end Scratchpad.Script
