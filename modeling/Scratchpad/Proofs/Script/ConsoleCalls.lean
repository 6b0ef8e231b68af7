import Scratchpad.Proofs.Script.Conversions

/-!
# Calls of the console

The calls that a script makes of its console form trees, as the conversion of an argument may make
further calls. A call that comes to its end adds one line behind those of the calls inside it, and a
call that is cut short adds none. Whatever an engine is asked for, the log grows by the lines of
such trees and by nothing else, and it is free whenever it is asked for.
-/
namespace Scratchpad.Script

/-- A call of a method of the console, with the calls that the conversions of its arguments made. -/
inductive Call (engine : Engine) where
  /-- All arguments were written as texts. -/
  | completed (level : Level) (arguments : List engine.Value) (inside : List (Call engine))
      (texts : List String)
  /-- An argument could not be written. -/
  | cut (level : Level) (arguments : List engine.Value) (inside : List (Call engine))
      (fault : engine.Fault)

variable {engine : Engine}

mutual

/-- The lines of the calls inside a call, and then its own if it comes to its end. -/
def Call.lines : Call engine → List ConsoleLine
  | .completed level _ inside texts => linesOf inside ++ [.ofTexts level texts]
  | .cut _ _ inside _ => linesOf inside

/-- The lines of calls in the order in which the calls come to their ends. -/
def linesOf : List (Call engine) → List ConsoleLine
  | [] => []
  | call :: rest => call.lines ++ linesOf rest

end

example (fault : engine.Fault) : linesOf [.completed .error [] [.completed .log [] [] ["inner"],
    .cut .warn [] [] fault] ["outer", ""]] = [⟨.log, "inner"⟩, ⟨.error, "outer "⟩] := rfl

/-- What calls make of the lines of a free log, one after the other. -/
inductive Records : List (Call engine) → Array ConsoleLine → Array ConsoleLine → Prop where
  | none {lines : Array ConsoleLine} : Records [] lines lines
  /-- The conversions end with the lines of the calls inside, and one line follows. -/
  | completed {depth : Nat} {level : Level} {arguments : List engine.Value}
      {inside rest : List (Call engine)} {texts : List String} {state after : engine.State}
      {first middle last : Array ConsoleLine} :
      ShowsAll (engine.methodsWithin depth) arguments state { lines := first } texts after
        { lines := middle } →
      Records inside first middle → Records rest (middle.push (.ofTexts level texts)) last →
      Records (.completed level arguments inside texts :: rest) first last
  /-- The conversions are cut short with the lines of the calls inside, and no line follows. -/
  | cut {depth : Nat} {level : Level} {arguments : List engine.Value}
      {inside rest : List (Call engine)} {fault : engine.Fault} {state after : engine.State}
      {first middle last : Array ConsoleLine} :
      FailsAmong (engine.methodsWithin depth) arguments state { lines := first } fault after
        { lines := middle } →
      Records inside first middle → Records rest middle last →
      Records (.cut level arguments inside fault :: rest) first last

/-- Calls that follow others go on where those end. -/
theorem Records.append {calls others : List (Call engine)} {first middle last : Array ConsoleLine}
    (records : Records calls first middle) (follow : Records others middle last) :
    Records (calls ++ others) first last := by
  induction records with
  | none => exact follow
  | completed shown inside _ _ ih => exact .completed shown inside (ih follow)
  | cut failed inside _ _ ih => exact .cut failed inside (ih follow)

/-- Calls add their lines and change nothing else. -/
theorem Records.lines {calls : List (Call engine)} {first last : Array ConsoleLine}
    (records : Records calls first last) : last.toList = first.toList ++ linesOf calls := by
  induction records with
  | none => rw [linesOf, List.append_nil]
  | completed shown inside follow ihInside ih =>
    rw [ih, Array.toList_push, ihInside, linesOf, Call.lines]
    simp only [List.append_assoc]
  | cut failed inside follow ihInside ih =>
    rw [ih, ihInside, linesOf, Call.lines, List.append_assoc]

/-! ## Steps that record calls -/

/-- A step leaves a free log free, with the lines of calls of the console added. -/
def Recorded (engine : Engine) {σ ε α : Type} (step : Step σ ε α) : Prop :=
  ∀ state lines, ∃ (calls : List (Call engine)) (last : Array ConsoleLine),
    (step state { lines }).log? = some { lines := last } ∧ Records calls lines last

namespace Recorded

variable {σ ε ε' α β : Type} {step : Step σ ε α}

/-- A step that begins with a free log comes to an end, and its log is free again. -/
theorem ends (recorded : Recorded engine step) (state : σ) (lines : Array ConsoleLine) :
    ∃ (calls : List (Call engine)) (last : Array ConsoleLine), Records calls lines last ∧
      ((∃ value after, step state { lines } = .done value after { lines := last }) ∨
        ∃ cause after, step state { lines } = .stopped cause after { lines := last }) := by
  obtain ⟨calls, last, ended, records⟩ := recorded state lines
  refine ⟨calls, last, records, ?_⟩
  cases ran : step state { lines } with
  | done value after log =>
    rw [ran] at ended
    cases ended
    exact .inl ⟨value, after, rfl⟩
  | stopped cause after log =>
    rw [ran] at ended
    cases ended
    exact .inr ⟨cause, after, rfl⟩
  | clashed message =>
    rw [ran] at ended
    cases ended

/-- Doing nothing records nothing. -/
theorem pure (value : α) : Recorded engine (Pure.pure value : Step σ ε α) :=
  fun _ lines => ⟨[], lines, rfl, .none⟩

/-- Changing the engine alone records nothing. -/
theorem change (found : σ → α × σ) : Recorded engine (.change found : Step σ ε α) :=
  fun _ lines => ⟨[], lines, rfl, .none⟩

/-- Cutting short records nothing. -/
theorem stop (cause : ε) : Recorded engine (.stop cause : Step σ ε α) :=
  fun _ lines => ⟨[], lines, rfl, .none⟩

/-- Reading a free log records nothing. -/
theorem readLines : Recorded engine (.readLines : Step σ ε (Array ConsoleLine)) :=
  fun _ lines => ⟨[], lines, rfl, .none⟩

/-- One step after another records the calls of both. -/
theorem bind {next : α → Step σ ε β} (first : Recorded engine step)
    (second : ∀ value, Recorded engine (next value)) : Recorded engine (step >>= next) := by
  intro state lines
  obtain ⟨calls, middle, records, ⟨value, between, ran⟩ | ⟨cause, after, ran⟩⟩ :=
    first.ends state lines
  · obtain ⟨others, last, ended, follow⟩ := second value between middle
    refine ⟨calls ++ others, last, ?_, records.append follow⟩
    rw [Step.bind_of_done ran, ended]
  · refine ⟨calls, middle, ?_, records⟩
    rw [Step.bind_of_stopped ran]
    rfl

/-- Going on however a step ends adds nothing to what it records. -/
theorem attempt (recorded : Recorded engine step) :
    Recorded engine (step.attempt : Step σ ε' (Except ε α)) := by
  intro state lines
  obtain ⟨calls, last, records, ⟨value, after, ran⟩ | ⟨cause, after, ran⟩⟩ :=
    recorded.ends state lines
  · refine ⟨calls, last, ?_, records⟩
    rw [Step.attempt, ran]
    rfl
  · refine ⟨calls, last, ?_, records⟩
    rw [Step.attempt, ran]
    rfl

end Recorded

/-! ## What the methods record -/

/-- A free log gets the line, and is free again. -/
theorem addLine_free {σ ε : Type} (line : ConsoleLine) (state : σ) (lines : Array ConsoleLine) :
    (addLine line : Step σ ε Unit) state { lines } =
      .done () state { lines := lines.push line } := rfl

section

variable {methods : Methods engine.State engine.Value engine.Fault}

/-- A call of a method whose arguments can be written ends with its line. -/
theorem writeLine_shows {level : Level} {arguments : List engine.Value}
    {state after : engine.State} {log : Log} {texts : List String} {lines : Array ConsoleLine}
    (shown : ShowsAll methods arguments state log texts after { lines }) :
    engine.writeLine methods level arguments state log =
      .done () after { lines := lines.push (.ofTexts level texts) } := by
  rw [Engine.writeLine, Step.bind_of_done (showsAll_iff.mp shown)]
  exact addLine_free _ _ _

/-- A call of a method one of whose arguments cannot be written is cut short in the same way. -/
theorem writeLine_fails {level : Level} {arguments : List engine.Value}
    {state after : engine.State} {log last : Log} {fault : engine.Fault}
    (failed : FailsAmong methods arguments state log fault after last) :
    engine.writeLine methods level arguments state log = .stopped fault after last :=
  Step.bind_of_stopped (failsAmong_iff.mp failed)

variable (recorded : ∀ level arguments, Recorded engine (methods level arguments))
include recorded

/-- What is true of all calls of methods is true of whatever comes about by them. -/
theorem recorded_of_led {log : Log} {after : Option Log} (led : Led methods log after) :
    ∀ lines, log = { lines } → ∃ (calls : List (Call engine)) (last : Array ConsoleLine),
      after = some { lines := last } ∧ Records calls lines last := by
  induction led with
  | still log =>
    rintro lines rfl
    exact ⟨[], lines, rfl, .none⟩
  | call level arguments state log =>
    rintro lines rfl
    exact recorded level arguments state lines
  | trans _ _ ihFirst ihSecond =>
    intro lines free
    obtain ⟨calls, middle, ended, records⟩ := ihFirst lines free
    obtain ⟨others, last, reached, follow⟩ := ihSecond middle (Option.some.inj ended)
    exact ⟨calls ++ others, last, reached, records.append follow⟩

/-- Whatever an engine is asked for records calls and nothing else, if the methods do. -/
theorem recorded_run {α : Type} (ask : Ask engine.State engine.Value engine.Fault α) :
    Recorded engine (ask.run methods) :=
  fun state lines => recorded_of_led recorded (ask.led methods state { lines }) lines rfl

/-- Converting the arguments of a call records calls and nothing else, if the methods do. -/
theorem recorded_argumentTexts (arguments : List engine.Value) :
    Recorded engine (engine.argumentTexts methods arguments) := by
  induction arguments with
  | nil => exact .pure []
  | cons value rest ih =>
    have first : Recorded engine (engine.argumentText methods value) := by
      rw [Engine.argumentText]
      split
      · exact .pure ""
      · exact recorded_run recorded (engine.coerced value)
    exact first.bind fun text => ih.bind fun others => .pure (text :: others)

/-- The arguments of a call can all be written, or the conversion of one fails; the log is free at
the end either way, with the lines of the calls that the conversions made. -/
theorem arguments_converted (arguments : List engine.Value) (state : engine.State)
    (lines : Array ConsoleLine) :
    ∃ (inside : List (Call engine)) (last : Array ConsoleLine) (after : engine.State),
      Records inside lines last ∧
      ((∃ texts, ShowsAll methods arguments state { lines } texts after { lines := last }) ∨
        ∃ fault, FailsAmong methods arguments state { lines } fault after { lines := last }) := by
  obtain ⟨inside, last, records, ⟨texts, after, ran⟩ | ⟨fault, after, ran⟩⟩ :=
    (recorded_argumentTexts recorded arguments).ends state lines
  · exact ⟨inside, last, after, records, .inl ⟨texts, showsAll_iff.mpr ran⟩⟩
  · exact ⟨inside, last, after, records, .inr ⟨fault, failsAmong_iff.mpr ran⟩⟩

end

/-- A call of a method records itself, however many calls may be inside it. -/
theorem recorded_methodsWithin (depth : Nat) (level : Level) (arguments : List engine.Value) :
    Recorded engine (engine.methodsWithin depth level arguments) := by
  induction depth generalizing level arguments with
  | zero => exact fun _ lines => ⟨[], lines, rfl, .none⟩
  | succ depth ih =>
    intro state lines
    obtain ⟨inside, last, after, records, ⟨texts, shown⟩ | ⟨fault, failed⟩⟩ :=
      arguments_converted ih arguments state lines
    · refine ⟨[.completed level arguments inside texts], _, ?_, .completed shown records .none⟩
      exact congrArg Outcome.log? (writeLine_shows shown)
    · refine ⟨[.cut level arguments inside fault], _, ?_, .cut failed records .none⟩
      exact congrArg Outcome.log? (writeLine_fails failed)

/-- Whatever an engine is asked for records calls and nothing else. -/
theorem recorded_ask {α : Type} (ask : Ask engine.State engine.Value engine.Fault α) :
    Recorded engine (engine.ask ask) :=
  recorded_run (recorded_methodsWithin engine.nesting) ask

end Scratchpad.Script
