import Scratchpad.Proofs.Script.Evaluations
import Scratchpad.Script.Evaluation

/-!
# Values that a snippet throws and values that it returns

A value that is no error is shown by its text, whether the snippet returned it or threw it. The
conversion may throw in its turn. A snippet that returned the value has then thrown like any other,
and what was thrown is told of by the rule: an error by its message, another value by its text. A
snippet that threw the value is being told of already, and a second value is only told of by the
rule if it is an error. Any other one is listed for programmers.
-/
namespace Scratchpad.Script

/-- What is told of a thrown value that is no error. -/
inductive Telling where
  /-- Its text, or the message of an error that its conversion threw. -/
  | ruled (text : String)
  /-- A listing for programmers, since its conversion threw another value that is no error. -/
  | listed (text : String)
deriving DecidableEq, Repr

/-- The text of what is told. -/
def Telling.text : Telling → String
  | .ruled text | .listed text => text

/-- How a value is converted to a text, with what is to be told if it is not. -/
inductive Conversion where
  /-- It has a text. -/
  | yields (text : String)
  /-- Its conversion threw an error with a message, or nothing at all was thrown. -/
  | fails (message : String)
  /-- Its conversion threw a value that is no error, with what is told of such a value when a
  snippet throws it, and with its listing for programmers. -/
  | throws (told : Telling) (listing : String)
deriving DecidableEq, Repr

/-- What comes of a snippet that wrote nothing and returned a value, by its conversion. -/
def Conversion.returned : Conversion → Completion
  | .yields text => .returned (some text)
  | .fails message => .threw message
  | .throws told _ => .threw told.text

/-- What comes of a snippet that threw a value that is no error, by its conversion. -/
def Conversion.thrown : Conversion → Completion
  | .yields message | .fails message | .throws _ message => .threw message

/-- Whether a value that is no error was thrown, and its listing is not what is told of it by the
rule, or the rule tells nothing of it. -/
def Conversion.Misquoted : Conversion → Prop
  | .throws (.ruled told) listing => told ≠ listing
  | .throws (.listed _) _ => True
  | _ => False

/-- A returned and a thrown value of a conversion show the same text, the thrown one as an error; if
there is no text, both show the one message as an error that the rule tells. -/
def Conversion.ShownAlike (returned thrown : String) : Conversion → Prop
  | .yields text => returned = text ∧ thrown = "Error: " ++ text
  | .fails message => returned = "Error: " ++ message ∧ thrown = "Error: " ++ message
  | .throws told _ => ∃ message, told = .ruled message ∧
    returned = "Error: " ++ message ∧ thrown = "Error: " ++ message

/-- A value is shown alike exactly if its conversion did not throw a value that is misquoted. -/
theorem Conversion.shownAlike_iff (converted : Conversion) :
    converted.ShownAlike converted.returned.render converted.thrown.render ↔
      ¬converted.Misquoted := by
  cases converted with
  | yields text => exact ⟨fun _ => id, fun _ => ⟨rfl, rfl⟩⟩
  | fails message => exact ⟨fun _ => id, fun _ => ⟨rfl, rfl⟩⟩
  | throws told listing =>
    cases told with
    | ruled told =>
      constructor
      · rintro ⟨_, ⟨⟩, -, thrown⟩ misquoted
        exact misquoted (String.append_right_inj "Error: " |>.mp thrown).symm
      · intro quoted
        have same : told = listing := Classical.byContradiction quoted
        exact ⟨told, rfl, rfl, congrArg ("Error: " ++ ·) same.symm⟩
    | listed other =>
      constructor
      · rintro ⟨_, ⟨⟩, -, -⟩
      · exact fun quoted => absurd trivial quoted

variable {engine : Engine} {start : Start} {settings : ScriptSettings} {code : String}

/-! ## Conversions -/

/-- What is told of a value that is no error and was thrown in an engine. -/
inductive ToldOf (engine : Engine) (value : engine.Value) (state : engine.State) (log : Log) :
    Telling → Prop where
  | text {text : String} {after : engine.State} {last : Log} :
      Converts engine value state log (.done text after last) →
      ToldOf engine value state log (.ruled text)
  | message {fault : engine.Fault} {error : engine.Value} {middle after : engine.State}
      {between last : Log} {message : String} :
      Converts engine value state log (.stopped fault middle between) →
      engine.caught fault middle = (.error error, after) →
      TellsError engine error after between message last →
      ToldOf engine value state log (.ruled message)
  | fault {fault : engine.Fault} {text : String} {middle after : engine.State} {between : Log} :
      Converts engine value state log (.stopped fault middle between) →
      engine.caught fault middle = (.fault text, after) →
      ToldOf engine value state log (.ruled text)
  | listing {fault : engine.Fault} {other : engine.Value} {middle after : engine.State}
      {between : Log} :
      Converts engine value state log (.stopped fault middle between) →
      engine.caught fault middle = (.value other, after) →
      ToldOf engine value state log (.listed (engine.listed other after))

/-- How the conversion of a value goes in an engine, with nothing written before. -/
inductive ConvertsAs (engine : Engine) (value : engine.Value) (state : engine.State) :
    Conversion → Prop where
  | yields {text : String} {after : engine.State} {last : Log} :
      Converts engine value state {} (.done text after last) →
      ConvertsAs engine value state (.yields text)
  | error {fault : engine.Fault} {error : engine.Value} {middle after : engine.State}
      {between last : Log} {message : String} :
      Converts engine value state {} (.stopped fault middle between) →
      engine.caught fault middle = (.error error, after) →
      TellsError engine error after between message last →
      ConvertsAs engine value state (.fails message)
  | fault {fault : engine.Fault} {text : String} {middle after : engine.State} {between : Log} :
      Converts engine value state {} (.stopped fault middle between) →
      engine.caught fault middle = (.fault text, after) →
      ConvertsAs engine value state (.fails text)
  | value {fault : engine.Fault} {nested : engine.Value} {middle after : engine.State}
      {between : Log} {told : Telling} :
      Converts engine value state {} (.stopped fault middle between) →
      engine.caught fault middle = (.value nested, after) →
      ToldOf engine nested after between told →
      ConvertsAs engine value state (.throws told (engine.listed nested after))

/-- Whatever is told of a thrown value is its message. -/
theorem ToldOf.tells {value : engine.Value} {state : engine.State} {log : Log} {told : Telling}
    (toldOf : ToldOf engine value state log told) :
    ∃ last, Tells engine state log (.value value) told.text last := by
  cases toldOf with
  | text converts => exact ⟨_, .value converts⟩
  | message converts was tells => exact ⟨_, .of_caught converts was (.error tells)⟩
  | fault converts was => exact ⟨_, .of_caught converts was .fault⟩
  | listing converts was => exact ⟨_, .of_caught converts was .value⟩

/-- What was caught is an error of which something is told, or another value, or nothing that was
thrown. -/
theorem caught_cases (fault : engine.Fault) (state : engine.State) (lines : Array ConsoleLine) :
    (∃ error after message last, engine.caught fault state = (.error error, after) ∧
      TellsError engine error after { lines } message last) ∨
    (∃ other after, engine.caught fault state = (.value other, after)) ∨
    ∃ text after, engine.caught fault state = (.fault text, after) := by
  cases was : engine.caught fault state with
  | mk caught after =>
    cases caught with
    | error error =>
      obtain ⟨_, last, message, _, tells⟩ := exists_tellsError error after lines
      exact .inl ⟨error, after, message, { lines := last }, rfl, tells⟩
    | value other => exact .inr (.inl ⟨other, after, rfl⟩)
    | fault text => exact .inr (.inr ⟨text, after, rfl⟩)

/-- Something is told of every value that is no error. -/
theorem exists_toldOf (value : engine.Value) (state : engine.State) (lines : Array ConsoleLine) :
    ∃ told, ToldOf engine value state { lines } told := by
  obtain ⟨_, between, _, ⟨text, after, converts⟩ | ⟨fault, middle, converts⟩⟩ :=
    exists_converts value state lines
  · exact ⟨_, .text converts⟩
  · obtain ⟨_, _, _, _, was, tells⟩ | ⟨_, _, was⟩ | ⟨_, _, was⟩ := caught_cases fault middle between
    · exact ⟨_, .message converts was tells⟩
    · exact ⟨_, .listing converts was⟩
    · exact ⟨_, .fault converts was⟩

/-- The conversion of a value goes in some way. -/
theorem exists_convertsAs (value : engine.Value) (state : engine.State) :
    ∃ converted, ConvertsAs engine value state converted := by
  obtain ⟨_, between, _, ⟨text, after, converts⟩ | ⟨fault, middle, converts⟩⟩ :=
    exists_converts value state #[]
  · exact ⟨_, .yields converts⟩
  · obtain ⟨_, _, _, _, was, tells⟩ | ⟨nested, later, was⟩ | ⟨_, _, was⟩ :=
      caught_cases fault middle between
    · exact ⟨_, .error converts was tells⟩
    · obtain ⟨told, toldOf⟩ := exists_toldOf nested later between
      exact ⟨_, .value converts was toldOf⟩
    · exact ⟨_, .fault converts was⟩

/-- What is told of a value that is no error, computed. -/
def tellingOf (engine : Engine) (value : engine.Value) (state : engine.State) (log : Log) :
    Telling :=
  match engine.stringOf value state log with
  | .done text _ _ => .ruled text
  | .stopped fault middle between =>
    match engine.caught fault middle with
    | (.value other, after) => .listed (engine.listed other after)
    | (.fault text, _) => .ruled text
    | (.error error, after) =>
      match (engine.messageOf error : Step engine.State Empty String) after between with
      | .done message _ _ => .ruled message
      | .clashed message => .ruled message
  | .clashed message => .ruled message

/-- How the conversion of a value goes, computed. -/
def conversionOf (engine : Engine) (value : engine.Value) (state : engine.State) : Conversion :=
  match engine.stringOf value state {} with
  | .done text _ _ => .yields text
  | .stopped fault middle between =>
    match engine.caught fault middle with
    | (.value nested, after) =>
      .throws (tellingOf engine nested after between) (engine.listed nested after)
    | (.fault text, _) => .fails text
    | (.error error, after) =>
      match (engine.messageOf error : Step engine.State Empty String) after between with
      | .done message _ _ => .fails message
      | .clashed message => .fails message
  | .clashed message => .fails message

/-- What is told of a value is what is computed. -/
theorem ToldOf.eq {value : engine.Value} {state : engine.State} {log : Log} {told : Telling}
    (toldOf : ToldOf engine value state log told) : tellingOf engine value state log = told := by
  cases toldOf with
  | text converts => rw [tellingOf, converts.eq]
  | message converts was tells =>
    obtain ⟨after, ran⟩ := tells.eq Empty
    rw [tellingOf, converts.eq]
    dsimp only
    rw [was]
    dsimp only
    rw [ran]
  | fault converts was =>
    rw [tellingOf, converts.eq]
    dsimp only
    rw [was]
  | listing converts was =>
    rw [tellingOf, converts.eq]
    dsimp only
    rw [was]

/-- The conversion of a value goes as is computed. -/
theorem convertsAs_iff {value : engine.Value} {state : engine.State} {converted : Conversion} :
    ConvertsAs engine value state converted ↔ conversionOf engine value state = converted := by
  have computed {found : Conversion} (goes : ConvertsAs engine value state found) :
      conversionOf engine value state = found := by
    cases goes with
    | yields converts => rw [conversionOf, converts.eq]
    | error converts was tells =>
      obtain ⟨after, ran⟩ := tells.eq Empty
      rw [conversionOf, converts.eq]
      dsimp only
      rw [was]
      dsimp only
      rw [ran]
    | fault converts was =>
      rw [conversionOf, converts.eq]
      dsimp only
      rw [was]
    | value converts was toldOf =>
      rw [conversionOf, converts.eq]
      dsimp only
      rw [was]
      dsimp only
      rw [toldOf.eq]
  constructor
  · exact computed
  · rintro rfl
    obtain ⟨found, goes⟩ := exists_convertsAs value state
    rwa [computed goes]

/-! ## What comes of the two snippets -/

/-- A snippet wrote nothing and returned a value, and left an engine. -/
def Returns (engine : Engine) (start : Start) (settings : ScriptSettings) (code : String)
    (value : engine.Value) (state : engine.State) : Prop :=
  ∃ opened console made log, engine.opened start settings = .ok opened ∧
    MakesConsole engine opened console made log ∧
    Invokes engine code console made log (.done value state {})

/-- A snippet wrote nothing and threw a value that is no error, and left an engine. -/
def Throws (engine : Engine) (start : Start) (settings : ScriptSettings) (code : String)
    (value : engine.Value) (state : engine.State) : Prop :=
  ∃ opened console made log fault middle, engine.opened start settings = .ok opened ∧
    MakesConsole engine opened console made log ∧
    Invokes engine code console made log (.stopped fault middle {}) ∧
    engine.caught fault middle = (.value value, state)

/-- What comes of a snippet that returned a value is decided by the conversion of the value. -/
theorem evaluate_returned {value : engine.Value} {state : engine.State} {converted : Conversion}
    (returns : Returns engine start settings code value state)
    (defined : engine.isUndefined value = false) (goes : ConvertsAs engine value state converted) :
    engine.evaluate start settings code = .completed converted.returned := by
  obtain ⟨opened, console, made, log, open_, makes, invokes⟩ := returns
  -- However the conversion went, it is the last request but that for a message.
  have concluded : ∃ last, Concludes engine code console made log converted.returned last := by
    cases goes with
    | yields converts => exact ⟨_, .returned invokes defined converts⟩
    | error converts was tells =>
      exact ⟨_, .of_unshown invokes defined converts was (.error tells)⟩
    | fault converts was => exact ⟨_, .of_unshown invokes defined converts was .fault⟩
    | value converts was toldOf =>
      obtain ⟨last, tells⟩ := toldOf.tells
      exact ⟨last, .of_unshown invokes defined converts was tells⟩
  obtain ⟨last, concludes⟩ := concluded
  have completes : CompletesAs engine start settings code converted.returned last :=
    ⟨opened, console, made, log, open_, makes, concludes⟩
  exact completes.eq.1

/-- What is told of a value that is no error is decided by its conversion, too. -/
theorem ConvertsAs.tells {value : engine.Value} {state : engine.State} {converted : Conversion}
    (goes : ConvertsAs engine value state converted) :
    ∃ message last, converted.thrown = .threw message ∧
      Tells engine state {} (.value value) message last := by
  cases goes with
  | yields converts => exact ⟨_, _, rfl, .value converts⟩
  | error converts was tells => exact ⟨_, _, rfl, .of_caught converts was (.error tells)⟩
  | fault converts was => exact ⟨_, _, rfl, .of_caught converts was .fault⟩
  | value converts was _ => exact ⟨_, _, rfl, .of_caught converts was .value⟩

/-- What comes of a snippet that threw a value which is no error is decided by the conversion. -/
theorem evaluate_thrown {value : engine.Value} {state : engine.State} {converted : Conversion}
    (throws : Throws engine start settings code value state)
    (goes : ConvertsAs engine value state converted) :
    engine.evaluate start settings code = .completed converted.thrown := by
  obtain ⟨opened, console, made, log, fault, middle, open_, makes, invokes, caught⟩ := throws
  obtain ⟨message, last, same, tells⟩ := goes.tells
  have concludes : Concludes engine code console made log (.threw message) last :=
    .of_threw invokes caught tells
  have completes : CompletesAs engine start settings code (.threw message) last :=
    ⟨opened, console, made, log, open_, makes, concludes⟩
  rw [completes.eq.1, same]

/-! ## Snippets by what they return or throw -/

/-- How the call of the function of a snippet ends, if there is an engine with a console. -/
def invocation? (engine : Engine) (start : Start) (settings : ScriptSettings) (code : String) :
    Option (Outcome engine.State engine.Fault engine.Value) :=
  match engine.opened start settings with
  | .error _ => none
  | .ok state =>
    match engine.makeConsole state {} with
    | .done console made log => some (engine.callSnippet code console made log)
    | .stopped _ _ _ | .clashed _ => none

/-- The conversion of a value that a snippet returned without a line in the log. -/
def returnedConversion? (engine : Engine) (start : Start) (settings : ScriptSettings)
    (code : String) : Option Conversion :=
  match invocation? engine start settings code with
  | some (.done value state log) =>
    if log = {} ∧ engine.isUndefined value = false then some (conversionOf engine value state)
    else none
  | _ => none

/-- The conversion of a value that a snippet threw without a line in the log. -/
def thrownConversion? (engine : Engine) (start : Start) (settings : ScriptSettings)
    (code : String) : Option Conversion :=
  match invocation? engine start settings code with
  | some (.stopped fault middle log) =>
    match engine.caught fault middle with
    | (.value value, state) => if log = {} then some (conversionOf engine value state) else none
    | _ => none
  | _ => none

/-- A call that ends is made with the console of an engine that was opened. -/
theorem exists_of_invocation? {outcome : Outcome engine.State engine.Fault engine.Value}
    (ended : invocation? engine start settings code = some outcome) :
    ∃ opened console made log, engine.opened start settings = .ok opened ∧
      MakesConsole engine opened console made log ∧
      Invokes engine code console made log outcome := by
  rw [invocation?] at ended
  split at ended
  · cases ended
  · rename_i state opened
    obtain ⟨_, lines, _, ⟨console, made, ran⟩ | ⟨_, _, ran⟩⟩ := recorded_makeConsole.ends state #[]
    · rw [ran] at ended
      exact ⟨state, console, made, _, opened, makesConsole_iff.mpr ran,
        invokes_of_eq (Option.some.inj ended)⟩
    · rw [ran] at ended
      cases ended

/-- A snippet whose value is converted without a line in the log returned the value. -/
theorem exists_of_returnedConversion? {converted : Conversion}
    (computed : returnedConversion? engine start settings code = some converted) :
    ∃ value state, Returns engine start settings code value state ∧
      engine.isUndefined value = false ∧ ConvertsAs engine value state converted := by
  rw [returnedConversion?] at computed
  split at computed
  · rename_i value state log ended
    split at computed
    · rename_i kept
      obtain ⟨rfl, defined⟩ := kept
      exact ⟨value, state, exists_of_invocation? ended, defined,
        convertsAs_iff.mpr (Option.some.inj computed)⟩
    · cases computed
  · cases computed

/-- A snippet whose value is converted after it was thrown without a line in the log threw it. -/
theorem exists_of_thrownConversion? {converted : Conversion}
    (computed : thrownConversion? engine start settings code = some converted) :
    ∃ value state, Throws engine start settings code value state ∧
      ConvertsAs engine value state converted := by
  rw [thrownConversion?] at computed
  split at computed
  · rename_i fault middle log ended
    split at computed
    · rename_i value state was
      split at computed
      · rename_i kept
        subst kept
        obtain ⟨opened, console, made, before, open_, makes, invokes⟩ :=
          exists_of_invocation? ended
        exact ⟨value, state, ⟨opened, console, made, before, fault, middle, open_, makes, invokes,
          was⟩, convertsAs_iff.mpr (Option.some.inj computed)⟩
      · cases computed
    · cases computed
  · cases computed

/-! ## Returned and thrown -/

/-- A value that one snippet returns and another one throws, converted alike, shows the same text
exactly if the conversion does not throw a value that is no error and whose listing is not what is
told of it. Such a second value is told of if the first one was returned, and listed if it was
thrown. -/
theorem thrown_shown_as_returned_iff {returning throwing : String} {value other : engine.Value}
    {state later : engine.State} (returns : Returns engine start settings returning value state)
    (defined : engine.isUndefined value = false)
    (throws : Throws engine start settings throwing other later)
    (alike : ∀ converted, ConvertsAs engine value state converted →
      ConvertsAs engine other later converted)
    (thread : Nat) :
    let returned := (engine.evaluate start settings returning).render thread
    let thrown := (engine.evaluate start settings throwing).render thread
    (∃ converted, ConvertsAs engine value state converted) ∧
    ∀ converted, ConvertsAs engine value state converted →
      (converted.ShownAlike returned thrown ↔ ¬converted.Misquoted) ∧
      ∀ told listing, converted = .throws told listing →
        returned = "Error: " ++ told.text ∧ thrown = "Error: " ++ listing := by
  intro returned thrown
  refine ⟨exists_convertsAs value state, fun converted goes => ?_⟩
  have wasReturned : returned = converted.returned.render :=
    congrArg (Evaluation.render thread) (evaluate_returned returns defined goes)
  have wasThrown : thrown = converted.thrown.render :=
    congrArg (Evaluation.render thread) (evaluate_thrown throws (alike converted goes))
  refine ⟨?_, ?_⟩
  · rw [wasReturned, wasThrown]
    exact converted.shownAlike_iff
  · rintro told listing rfl
    rw [wasReturned, wasThrown]
    exact ⟨rfl, rfl⟩

/-- An object whose conversion throws an error: returned and thrown, it shows the error. -/
theorem thrown_shown_as_returned_iff_error :
    let returning := "return \x7b toString() \x7b throw new Error('bad') \x7d \x7d"
    let throwing := "throw \x7b toString() \x7b throw new Error('bad') \x7d \x7d"
    ∃ value state other later, Returns Walker.engine (.first {}) {} returning value state ∧
      Walker.engine.isUndefined value = false ∧
      Throws Walker.engine (.first {}) {} throwing other later ∧
      (∀ converted, ConvertsAs Walker.engine value state converted →
        ConvertsAs Walker.engine other later converted) ∧
      (evaluate {} returning).render 3 = "Error: bad" ∧
      (evaluate {} throwing).render 3 = "Error: bad" := by
  intro returning throwing
  have returned : returnedConversion? Walker.engine (.first {}) {} returning =
      some (.fails "bad") := by decide +kernel
  have thrown : thrownConversion? Walker.engine (.first {}) {} throwing = some (.fails "bad") := by
    decide +kernel
  obtain ⟨value, state, returns, defined, goes⟩ := exists_of_returnedConversion? returned
  obtain ⟨other, later, throws, goes'⟩ := exists_of_thrownConversion? thrown
  have alike : ∀ converted, ConvertsAs Walker.engine value state converted →
      ConvertsAs Walker.engine other later converted := by
    intro converted found
    rwa [← convertsAs_iff.mp found, convertsAs_iff.mp goes]
  obtain ⟨-, shown⟩ := thrown_shown_as_returned_iff returns defined throws alike 3
  obtain ⟨same, thrown'⟩ := (shown (.fails "bad") goes).1.mpr id
  exact ⟨value, state, other, later, returns, defined, throws, alike, same, thrown'⟩

/-- An object whose conversion throws a value that is no error: returned, it shows the text of the
value, and thrown, it shows a listing. -/
theorem thrower_shown_apart :
    evaluate {} "return \x7b toString() \x7b throw null \x7d \x7d" = .completed (.threw "null") ∧
      evaluate {} "throw \x7b toString() \x7b throw null \x7d \x7d" =
        .completed (.threw "Exception generated by quickjs: Null\"null\"\n") := by
  decide +kernel

end Scratchpad.Script
