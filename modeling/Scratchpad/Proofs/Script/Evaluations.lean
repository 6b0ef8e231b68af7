import Scratchpad.Proofs.Script.ConsoleCalls
import Scratchpad.Script.Snippet

/-!
# What evaluations come to

The evaluation of a snippet is a chain of requests to an engine, each made where the one before has
left the engine and the log. The relations here tell it request by request: the console is made, the
function is built and called with it, and then the log, the value or what was thrown decides what
comes of the snippet. Evaluations always get to the end of the chain, and to one end only.
-/
namespace Scratchpad.Script

variable (engine : Engine)

/-! ## The requests -/

/-- An object gets the methods of levels, each under its name. -/
inductive Equips (console : engine.Value) :
    List Level → engine.State → Log → engine.State → Log → Prop where
  | nil {state : engine.State} {log : Log} : Equips console [] state log state log
  | cons {level : Level} {rest : List Level} {method : engine.Value}
      {state made set after : engine.State} {log madeLog setLog last : Log} :
      engine.ask (engine.newMethod level) state log = .done method made madeLog →
      engine.ask (engine.set console level.name method) made madeLog = .done () set setLog →
      Equips console rest set setLog after last →
      Equips console (level :: rest) state log after last

/-- A console is made: an object that gets the methods of all levels. -/
def MakesConsole (state : engine.State) (console : engine.Value) (after : engine.State)
    (last : Log) : Prop :=
  ∃ middle between, engine.ask engine.newObject state {} = .done console middle between ∧
    Equips engine console Level.all middle between after last

/-- How the call of a snippet's function ends: the function with the parameter `console` and the
snippet as its body is built by the class of functions, and called with the console. -/
inductive Invokes (code : String) (console : engine.Value) (state : engine.State) (log : Log) :
    Outcome engine.State engine.Fault engine.Value → Prop where
  | unfound {fault : engine.Fault} {after : engine.State} {last : Log} :
      engine.ask (engine.globalFunction "Function") state log = .stopped fault after last →
      Invokes code console state log (.stopped fault after last)
  | unbuilt {constructor : engine.Value} {found after : engine.State} {foundLog last : Log}
      {fault : engine.Fault} :
      engine.ask (engine.globalFunction "Function") state log = .done constructor found foundLog →
      engine.ask (engine.callTexts constructor ["console", "\n" ++ code]) found foundLog =
        .stopped fault after last →
      Invokes code console state log (.stopped fault after last)
  | uncallable {constructor made : engine.Value} {found built after : engine.State}
      {foundLog builtLog last : Log} {fault : engine.Fault} :
      engine.ask (engine.globalFunction "Function") state log = .done constructor found foundLog →
      engine.ask (engine.callTexts constructor ["console", "\n" ++ code]) found foundLog =
        .done made built builtLog →
      engine.ask (engine.asFunction made) built builtLog = .stopped fault after last →
      Invokes code console state log (.stopped fault after last)
  | called {constructor made function : engine.Value} {found built ready : engine.State}
      {foundLog builtLog readyLog : Log} :
      engine.ask (engine.globalFunction "Function") state log = .done constructor found foundLog →
      engine.ask (engine.callTexts constructor ["console", "\n" ++ code]) found foundLog =
        .done made built builtLog →
      engine.ask (engine.asFunction made) built builtLog = .done function ready readyLog →
      Invokes code console state log (engine.ask (engine.call function [console]) ready readyLog)

/-- How the conversion of a value to a text ends: the class of strings, as the script left it, is
called with the value, and what it gives is read as a text. -/
inductive Converts (value : engine.Value) (state : engine.State) (log : Log) :
    Outcome engine.State engine.Fault String → Prop where
  | unfound {fault : engine.Fault} {after : engine.State} {last : Log} :
      engine.ask (engine.globalFunction "String") state log = .stopped fault after last →
      Converts value state log (.stopped fault after last)
  | uncalled {convert : engine.Value} {found after : engine.State} {foundLog last : Log}
      {fault : engine.Fault} :
      engine.ask (engine.globalFunction "String") state log = .done convert found foundLog →
      engine.ask (engine.call convert [value]) found foundLog = .stopped fault after last →
      Converts value state log (.stopped fault after last)
  | called {convert text : engine.Value} {found given : engine.State} {foundLog givenLog : Log} :
      engine.ask (engine.globalFunction "String") state log = .done convert found foundLog →
      engine.ask (engine.call convert [value]) found foundLog = .done text given givenLog →
      Converts value state log (engine.ask (engine.asText text) given givenLog)

/-- What is told of an error: its message, or nothing if that cannot be read. -/
inductive TellsError (error : engine.Value) (state : engine.State) (log : Log) :
    String → Log → Prop where
  | message {message : String} {after : engine.State} {last : Log} :
      engine.ask (engine.message error) state log = .done (some message) after last →
      TellsError error state log message last
  | none {after : engine.State} {last : Log} :
      engine.ask (engine.message error) state log = .done none after last →
      TellsError error state log "" last
  | unread {fault : engine.Fault} {after : engine.State} {last : Log} :
      engine.ask (engine.message error) state log = .stopped fault after last →
      TellsError error state log "" last

/-- What is told of something that was caught while another thrown value was being shown: a value
that is no error is listed. -/
inductive TellsNested (state : engine.State) (log : Log) :
    Caught engine.Value → String → Log → Prop where
  | error {error : engine.Value} {message : String} {last : Log} :
      TellsError engine error state log message last →
      TellsNested state log (.error error) message last
  | value {value : engine.Value} :
      TellsNested state log (.value value) (engine.listed value state) log
  | fault {text : String} : TellsNested state log (.fault text) text log

/-- What is told of something that was caught: an error by its message, a value by its text, if it
has one. -/
inductive Tells (state : engine.State) (log : Log) : Caught engine.Value → String → Log → Prop where
  | error {error : engine.Value} {message : String} {last : Log} :
      TellsError engine error state log message last → Tells state log (.error error) message last
  | value {value : engine.Value} {text : String} {after : engine.State} {last : Log} :
      Converts engine value state log (.done text after last) →
      Tells state log (.value value) text last
  | nested {value : engine.Value} {fault : engine.Fault} {message : String}
      {middle : engine.State} {between last : Log} :
      Converts engine value state log (.stopped fault middle between) →
      TellsNested engine (engine.caught fault middle).2 between (engine.caught fault middle).1
        message last →
      Tells state log (.value value) message last
  | fault {text : String} : Tells state log (.fault text) text log

/-- What comes of a snippet with a console, and the log after all of it. -/
inductive Concludes (code : String) (console : engine.Value) (state : engine.State) (log : Log) :
    Completion → Log → Prop where
  /-- Lines were written before the function returned: they are shown, and the value is not even
  looked at. -/
  | logged {value : engine.Value} {after : engine.State} {lines : Array ConsoleLine} :
      Invokes engine code console state log (.done value after { lines }) → lines ≠ #[] →
      Concludes code console state log (.logged (lines.toList.map ConsoleLine.text)) { lines }
  | absent {value : engine.Value} {after : engine.State} :
      Invokes engine code console state log (.done value after {}) →
      engine.isUndefined value = true → Concludes code console state log (.returned none) {}
  | returned {value : engine.Value} {middle after : engine.State} {text : String} {last : Log} :
      Invokes engine code console state log (.done value middle {}) →
      engine.isUndefined value = false →
      Converts engine value middle {} (.done text after last) →
      Concludes code console state log (.returned (some text)) last
  /-- No line was written before the function returned, and its value has no text. -/
  | unshown {value : engine.Value} {middle after : engine.State} {between last : Log}
      {fault : engine.Fault} {message : String} :
      Invokes engine code console state log (.done value middle {}) →
      engine.isUndefined value = false →
      Converts engine value middle {} (.stopped fault after between) →
      Tells engine (engine.caught fault after).2 between (engine.caught fault after).1 message
        last →
      Concludes code console state log (.threw message) last
  /-- Building the function or calling it was cut short, whatever had been written. -/
  | threw {middle : engine.State} {between last : Log} {fault : engine.Fault} {message : String} :
      Invokes engine code console state log (.stopped fault middle between) →
      Tells engine (engine.caught fault middle).2 between (engine.caught fault middle).1 message
        last →
      Concludes code console state log (.threw message) last

variable {engine}

/-! ## What was caught -/

/-- What is told of a value whose conversion was cut short is told of what was caught of that. -/
theorem Tells.of_caught {value : engine.Value} {fault : engine.Fault} {caught : Caught engine.Value}
    {state middle after : engine.State} {log between last : Log} {message : String}
    (converts : Converts engine value state log (.stopped fault middle between))
    (was : engine.caught fault middle = (caught, after))
    (tells : TellsNested engine after between caught message last) :
    Tells engine state log (.value value) message last := by
  refine .nested converts ?_
  rw [was]
  exact tells

/-- A snippet whose value has no text throws what was caught of the conversion. -/
theorem Concludes.of_unshown {code : String} {console value : engine.Value}
    {state middle after final : engine.State} {log between last : Log} {fault : engine.Fault}
    {caught : Caught engine.Value} {message : String}
    (invokes : Invokes engine code console state log (.done value middle {}))
    (defined : engine.isUndefined value = false)
    (converts : Converts engine value middle {} (.stopped fault after between))
    (was : engine.caught fault after = (caught, final))
    (tells : Tells engine final between caught message last) :
    Concludes engine code console state log (.threw message) last := by
  refine .unshown invokes defined converts ?_
  rw [was]
  exact tells

/-- A snippet whose call was cut short throws what was caught of it. -/
theorem Concludes.of_threw {code : String} {console : engine.Value}
    {state middle after : engine.State} {log between last : Log} {fault : engine.Fault}
    {caught : Caught engine.Value} {message : String}
    (invokes : Invokes engine code console state log (.stopped fault middle between))
    (was : engine.caught fault middle = (caught, after))
    (tells : Tells engine after between caught message last) :
    Concludes engine code console state log (.threw message) last := by
  refine .threw invokes ?_
  rw [was]
  exact tells

/-! ## The requests are what is done -/

/-- Methods are given to an object exactly as the requests for them go. -/
theorem equips_iff {console : engine.Value} {levels : List Level} {state after : engine.State}
    {log last : Log} : Equips engine console levels state log after last ↔
      engine.equip console levels state log = .done () after last := by
  induction levels generalizing state log with
  | nil =>
    constructor
    · intro equips
      cases equips
      rfl
    · intro ran
      cases ran
      exact .nil
  | cons level rest ih =>
    rw [Engine.equip, Step.bind_eq_done]
    constructor
    · intro equips
      cases equips with
      | cons made given follow =>
        refine ⟨_, _, _, made, ?_⟩
        rw [Step.bind_of_done given]
        exact ih.mp follow
    · rintro ⟨method, middle, between, made, ran⟩
      rw [Step.bind_eq_done] at ran
      obtain ⟨_, set, setLog, given, follow⟩ := ran
      exact .cons made given (ih.mpr follow)

/-- A console is made exactly as the requests for it go. -/
theorem makesConsole_iff {state after : engine.State} {console : engine.Value} {last : Log} :
    MakesConsole engine state console after last ↔
      engine.makeConsole state {} = .done console after last := by
  rw [Engine.makeConsole, Step.bind_eq_done]
  constructor
  · rintro ⟨middle, between, made, equips⟩
    refine ⟨console, middle, between, made, ?_⟩
    rw [Step.bind_of_done (equips_iff.mp equips)]
    rfl
  · rintro ⟨found, middle, between, made, ran⟩
    rw [Step.bind_eq_done] at ran
    obtain ⟨_, _, _, equips, ended⟩ := ran
    cases ended
    exact ⟨middle, between, made, equips_iff.mpr equips⟩

/-- The call of a snippet's function ends as the requests do. -/
theorem Invokes.eq {code : String} {console : engine.Value} {state : engine.State} {log : Log}
    {outcome : Outcome engine.State engine.Fault engine.Value}
    (invokes : Invokes engine code console state log outcome) :
    engine.callSnippet code console state log = outcome := by
  rw [Engine.callSnippet]
  cases invokes with
  | unfound stopped => exact Step.bind_of_stopped stopped
  | unbuilt found stopped => rw [Step.bind_of_done found, Step.bind_of_stopped stopped]
  | uncallable found built stopped =>
    rw [Step.bind_of_done found, Step.bind_of_done built, Step.bind_of_stopped stopped]
  | called found built ready =>
    rw [Step.bind_of_done found, Step.bind_of_done built, Step.bind_of_done ready]

/-- The conversion of a value ends as the requests do. -/
theorem Converts.eq {value : engine.Value} {state : engine.State} {log : Log}
    {outcome : Outcome engine.State engine.Fault String}
    (converts : Converts engine value state log outcome) :
    engine.stringOf value state log = outcome := by
  rw [Engine.stringOf]
  cases converts with
  | unfound stopped => exact Step.bind_of_stopped stopped
  | uncalled found stopped => rw [Step.bind_of_done found, Step.bind_of_stopped stopped]
  | called found given => rw [Step.bind_of_done found, Step.bind_of_done given]

/-- What is told of an error is its message, if that can be read. -/
theorem TellsError.eq (ε : Type) {error : engine.Value} {state : engine.State} {log last : Log}
    {message : String} (tells : TellsError engine error state log message last) :
    ∃ after, (engine.messageOf error : Step engine.State ε String) state log =
      .done message after last := by
  cases tells with
  | @message _ after _ read => exact ⟨after, Step.bind_of_done (Step.attempt_of_done read)⟩
  | @none after _ read => exact ⟨after, Step.bind_of_done (Step.attempt_of_done read)⟩
  | @unread _ after _ stopped => exact ⟨after, Step.bind_of_done (Step.attempt_of_stopped stopped)⟩

/-- What is told of something that was caught second is an error's message, or a listing. -/
theorem TellsNested.eq (ε : Type) {caught : Caught engine.Value} {state : engine.State}
    {log last : Log} {message : String} (tells : TellsNested engine state log caught message last) :
    ∃ after, (engine.nestedMessage caught : Step engine.State ε String) state log =
      .done message after last := by
  cases tells with
  | error told => exact told.eq ε
  | value => exact ⟨state, rfl⟩
  | fault => exact ⟨state, rfl⟩

/-- What is told of something that was caught is an error's message, or the text of a value. -/
theorem Tells.eq (ε : Type) {caught : Caught engine.Value} {state : engine.State} {log last : Log}
    {message : String} (tells : Tells engine state log caught message last) :
    ∃ after, (engine.thrownMessage caught : Step engine.State ε String) state log =
      .done message after last := by
  cases tells with
  | error told => exact told.eq ε
  | @value _ _ after _ converts =>
    exact ⟨after, Step.bind_of_done (Step.attempt_of_done converts.eq)⟩
  | @nested _ _ _ middle between _ converts told =>
    obtain ⟨after, ran⟩ := told.eq ε
    refine ⟨after, ?_⟩
    rw [Engine.thrownMessage, Step.bind_of_done (Step.attempt_of_stopped converts.eq)]
    exact ran
  | fault => exact ⟨state, rfl⟩

/-- Lines that were written are what comes of a value that was returned. -/
theorem settle_written {value : engine.Value} {state : engine.State} {lines : Array ConsoleLine}
    (written : lines ≠ #[]) : engine.settle value state { lines } =
      .done (.logged (lines.toList.map ConsoleLine.text)) state { lines } := by
  have some : (!lines.isEmpty) = true := by simpa using written
  rw [Engine.settle, Step.bind_of_done (Step.run_readLines state lines), if_pos some]
  rfl

/-- Without a line the value that was returned decides. -/
theorem settle_unwritten (value : engine.Value) (state : engine.State) :
    engine.settle value state {} =
      (if engine.isUndefined value = true then return .returned none
        else do return .returned (some (← engine.stringOf value)) :
        Step engine.State engine.Fault Completion) state {} := by
  rw [Engine.settle, Step.bind_of_done (Step.run_readLines state #[])]
  rfl

/-- A snippet comes to what its requests conclude. -/
theorem Concludes.eq {code : String} {console : engine.Value} {state made : engine.State}
    {log last : Log} {completion : Completion} (makes : MakesConsole engine state console made log)
    (concludes : Concludes engine code console made log completion last) :
    ∃ after, engine.runSnippet code state {} = .done completion after last := by
  rw [Engine.runSnippet, Step.bind_of_done (Step.attempt_of_done (makesConsole_iff.mp makes))]
  dsimp only
  cases concludes with
  | @logged value after lines invokes written =>
    have ran := (Step.bind_of_done invokes.eq).trans (settle_written written)
    exact ⟨after, Step.bind_of_done (Step.attempt_of_done ran)⟩
  | @absent value after invokes undefined =>
    have ran := (Step.bind_of_done invokes.eq).trans (settle_unwritten value after)
    rw [if_pos undefined] at ran
    exact ⟨after, Step.bind_of_done (Step.attempt_of_done ran)⟩
  | @returned value middle after text last invokes defined converts =>
    have ran := (Step.bind_of_done invokes.eq).trans (settle_unwritten value middle)
    rw [if_neg (Bool.eq_false_iff.mp defined), Step.bind_of_done converts.eq] at ran
    exact ⟨after, Step.bind_of_done (Step.attempt_of_done ran)⟩
  | @unshown value middle after between last fault message invokes defined converts told =>
    have ran := (Step.bind_of_done invokes.eq).trans (settle_unwritten value middle)
    rw [if_neg (Bool.eq_false_iff.mp defined), Step.bind_of_stopped converts.eq] at ran
    obtain ⟨final, tells⟩ := told.eq Failure
    refine ⟨final, ?_⟩
    rw [Step.bind_of_done (Step.attempt_of_stopped ran)]
    dsimp only
    rw [Step.bind_of_done (Step.run_change _ after between), Step.bind_of_done tells]
    rfl
  | @threw middle between last fault message invokes told =>
    have ran : (do engine.settle (← engine.callSnippet code console)) made log =
        .stopped fault middle between := Step.bind_of_stopped invokes.eq
    obtain ⟨final, tells⟩ := told.eq Failure
    refine ⟨final, ?_⟩
    rw [Step.bind_of_done (Step.attempt_of_stopped ran)]
    dsimp only
    rw [Step.bind_of_done (Step.run_change _ middle between), Step.bind_of_done tells]
    rfl

/-! ## Evaluations get to their end -/

/-- The call of a snippet's function ends, with the lines of the calls that it made. -/
theorem exists_invokes (code : String) (console : engine.Value) (state : engine.State)
    (lines : Array ConsoleLine) :
    ∃ (calls : List (Call engine)) (last : Array ConsoleLine)
      (outcome : Outcome engine.State engine.Fault engine.Value),
      Records calls lines last ∧ outcome.log? = some { lines := last } ∧
        Invokes engine code console state { lines } outcome := by
  obtain ⟨first, foundLines, recorded, ⟨constructor, found, sought⟩ | ⟨fault, after, stopped⟩⟩ :=
    (recorded_ask (engine.globalFunction "Function")).ends state lines
  · obtain ⟨second, builtLines, recorded', ⟨made, built, called⟩ | ⟨fault, after, stopped⟩⟩ :=
      (recorded_ask (engine.callTexts constructor ["console", "\n" ++ code])).ends found foundLines
    · obtain ⟨third, readyLines, recorded'', ⟨function, ready, read⟩ | ⟨fault, after, stopped⟩⟩ :=
        (recorded_ask (engine.asFunction made)).ends built builtLines
      · obtain ⟨fourth, last, ended, follow⟩ :=
          recorded_ask (engine.call function [console]) ready readyLines
        exact ⟨_, last, _, ((recorded.append recorded').append recorded'').append follow, ended,
          .called sought called read⟩
      · exact ⟨_, readyLines, _, (recorded.append recorded').append recorded'', rfl,
          .uncallable sought called stopped⟩
    · exact ⟨_, builtLines, _, recorded.append recorded', rfl, .unbuilt sought stopped⟩
  · exact ⟨_, foundLines, _, recorded, rfl, .unfound stopped⟩

/-- The conversion of a value gives a text or is cut short, with the lines of the calls that it
made. -/
theorem exists_converts (value : engine.Value) (state : engine.State)
    (lines : Array ConsoleLine) :
    ∃ (calls : List (Call engine)) (last : Array ConsoleLine), Records calls lines last ∧
      ((∃ text after,
          Converts engine value state { lines } (.done text after { lines := last })) ∨
        ∃ fault after,
          Converts engine value state { lines } (.stopped fault after { lines := last })) := by
  obtain ⟨first, foundLines, recorded, ⟨convert, found, sought⟩ | ⟨fault, after, stopped⟩⟩ :=
    (recorded_ask (engine.globalFunction "String")).ends state lines
  · obtain ⟨second, givenLines, recorded', ⟨given, reached, called⟩ | ⟨fault, after, stopped⟩⟩ :=
      (recorded_ask (engine.call convert [value])).ends found foundLines
    · have read : Converts engine value state { lines }
          (engine.ask (engine.asText given) reached { lines := givenLines }) :=
        .called sought called
      obtain ⟨third, last, recorded'', ⟨text, after, ended⟩ | ⟨fault, after, ended⟩⟩ :=
        (recorded_ask (engine.asText given)).ends reached givenLines
      · exact ⟨_, last, (recorded.append recorded').append recorded'', .inl ⟨_, _, ended ▸ read⟩⟩
      · exact ⟨_, last, (recorded.append recorded').append recorded'', .inr ⟨_, _, ended ▸ read⟩⟩
    · exact ⟨_, givenLines, recorded.append recorded', .inr ⟨_, _, .uncalled sought stopped⟩⟩
  · exact ⟨_, foundLines, recorded, .inr ⟨_, _, .unfound stopped⟩⟩

/-- A call that has ended is how the requests end. -/
theorem invokes_of_eq {code : String} {console : engine.Value} {state : engine.State}
    {lines : Array ConsoleLine} {outcome : Outcome engine.State engine.Fault engine.Value}
    (ended : engine.callSnippet code console state { lines } = outcome) :
    Invokes engine code console state { lines } outcome := by
  obtain ⟨_, _, found, _, _, invokes⟩ := exists_invokes code console state lines
  exact ended ▸ invokes.eq ▸ invokes

/-- Something is told of an error. -/
theorem exists_tellsError (error : engine.Value) (state : engine.State)
    (lines : Array ConsoleLine) :
    ∃ (calls : List (Call engine)) (last : Array ConsoleLine) (message : String),
      Records calls lines last ∧
        TellsError engine error state { lines } message { lines := last } := by
  obtain ⟨calls, last, recorded, ⟨message, after, read⟩ | ⟨fault, after, stopped⟩⟩ :=
    (recorded_ask (engine.message error)).ends state lines
  · cases message with
    | some message => exact ⟨calls, last, message, recorded, .message read⟩
    | none => exact ⟨calls, last, "", recorded, .none read⟩
  · exact ⟨calls, last, "", recorded, .unread stopped⟩

/-- Something is told of whatever was caught second. -/
theorem exists_tellsNested (caught : Caught engine.Value) (state : engine.State)
    (lines : Array ConsoleLine) :
    ∃ (calls : List (Call engine)) (last : Array ConsoleLine) (message : String),
      Records calls lines last ∧
        TellsNested engine state { lines } caught message { lines := last } := by
  cases caught with
  | error error =>
    obtain ⟨calls, last, message, recorded, tells⟩ := exists_tellsError error state lines
    exact ⟨calls, last, message, recorded, .error tells⟩
  | value value => exact ⟨[], lines, _, .none, .value⟩
  | fault text => exact ⟨[], lines, text, .none, .fault⟩

/-- Something is told of whatever was caught. -/
theorem exists_tells (caught : Caught engine.Value) (state : engine.State)
    (lines : Array ConsoleLine) :
    ∃ (calls : List (Call engine)) (last : Array ConsoleLine) (message : String),
      Records calls lines last ∧ Tells engine state { lines } caught message { lines := last } := by
  cases caught with
  | error error =>
    obtain ⟨calls, last, message, recorded, tells⟩ := exists_tellsError error state lines
    exact ⟨calls, last, message, recorded, .error tells⟩
  | value value =>
    obtain ⟨calls, middle, recorded, ⟨text, after, converts⟩ | ⟨fault, after, converts⟩⟩ :=
      exists_converts value state lines
    · exact ⟨calls, middle, text, recorded, .value converts⟩
    · obtain ⟨others, last, message, follow, tells⟩ :=
        exists_tellsNested (engine.caught fault after).1 (engine.caught fault after).2 middle
      exact ⟨calls ++ others, last, message, recorded.append follow, .nested converts tells⟩
  | fault text => exact ⟨[], lines, text, .none, .fault⟩

/-- Something comes of every snippet with a console, and all lines in the log at its end are those
of calls: of those that were made until the function came to its end, and of those behind it. -/
theorem exists_concludes (code : String) (console : engine.Value) (state : engine.State)
    (lines : Array ConsoleLine) :
    ∃ (calls : List (Call engine)) (last : Array ConsoleLine) (completion : Completion),
      Records calls lines last ∧
        Concludes engine code console state { lines } completion { lines := last } := by
  obtain ⟨calls, middle, outcome, recorded, ended, invokes⟩ :=
    exists_invokes code console state lines
  cases outcome with
  | done value after log =>
    cases ended
    by_cases written : middle = #[]
    · subst written
      cases defined : engine.isUndefined value with
      | true => exact ⟨calls, #[], _, recorded, .absent invokes defined⟩
      | false =>
        obtain ⟨others, between, follow, ⟨text, final, converts⟩ | ⟨fault, final, converts⟩⟩ :=
          exists_converts value after #[]
        · exact ⟨calls ++ others, between, _, recorded.append follow,
            .returned invokes defined converts⟩
        · obtain ⟨more, last, message, told, tells⟩ :=
            exists_tells (engine.caught fault final).1 (engine.caught fault final).2 between
          exact ⟨calls ++ others ++ more, last, _, (recorded.append follow).append told,
            .unshown invokes defined converts tells⟩
    · exact ⟨calls, middle, _, recorded, .logged invokes written⟩
  | stopped fault after log =>
    cases ended
    obtain ⟨others, last, message, follow, tells⟩ :=
      exists_tells (engine.caught fault after).1 (engine.caught fault after).2 middle
    exact ⟨calls ++ others, last, _, recorded.append follow, .threw invokes tells⟩
  | clashed message => cases ended

/-- Making a console records calls and nothing else. -/
theorem recorded_makeConsole : Recorded engine engine.makeConsole := by
  have equip (console : engine.Value) (levels : List Level) :
      Recorded engine (engine.equip console levels) := by
    induction levels with
    | nil => exact .pure ()
    | cons level rest ih =>
      exact (recorded_ask (engine.newMethod level)).bind fun method =>
        (recorded_ask (engine.set console level.name method)).bind fun _ => ih
  exact (recorded_ask engine.newObject).bind fun console =>
    (equip console Level.all).bind fun _ => .pure console

/-! ## Evaluations -/

variable (engine) in
/-- What comes of a snippet in an engine that was opened for it, and the log after all of it. -/
def CompletesAs (start : Start) (settings : ScriptSettings) (code : String)
    (completion : Completion) (last : Log) : Prop :=
  ∃ state console made log, engine.opened start settings = .ok state ∧
    MakesConsole engine state console made log ∧
    Concludes engine code console made log completion last

variable (engine) in
/-- The log after the whole evaluation of a snippet. A line that was written stays in it, so its
lines are all that were recorded, at whatever time. -/
def finalLog? (start : Start) (settings : ScriptSettings) (code : String) : Option Log :=
  match engine.opened start settings with
  | .ok state => (engine.runSnippet code state {}).log?
  | .error _ => none

section

variable {start : Start} {settings : ScriptSettings} {code : String}

/-- An evaluation in an engine that was opened is that of the snippet. -/
theorem evaluate_opened {state : engine.State}
    (opened : engine.opened start settings = .ok state) :
    engine.evaluate start settings code = .ofOutcome (engine.runSnippet code state {}) := by
  rw [Engine.evaluate, opened]

/-- What comes of a snippet is its evaluation. -/
theorem CompletesAs.eq {completion : Completion} {last : Log}
    (completes : CompletesAs engine start settings code completion last) :
    engine.evaluate start settings code = .completed completion ∧
      finalLog? engine start settings code = some last := by
  obtain ⟨state, console, made, log, opened, makes, concludes⟩ := completes
  obtain ⟨after, ran⟩ := concludes.eq makes
  constructor
  · rw [evaluate_opened opened, ran, Evaluation.ofOutcome]
  · rw [finalLog?, opened]
    dsimp only
    rw [ran, Outcome.log?]

/-- In an engine that was opened the console cannot be made, which is a failure, or something comes
of the snippet. -/
theorem opened_cases {state : engine.State} (opened : engine.opened start settings = .ok state)
    (code : String) :
    (∃ fault after last, engine.makeConsole state {} = .stopped fault after last ∧
      engine.evaluate start settings code = .failed (setupFailure (engine.faultText fault))) ∨
    ∃ (console : engine.Value) (made : engine.State) (calls : List (Call engine))
      (lines : Array ConsoleLine), MakesConsole engine state console made { lines } ∧
        Records calls #[] lines := by
  obtain ⟨calls, lines, records, ⟨console, made, ran⟩ | ⟨fault, after, ran⟩⟩ :=
    recorded_makeConsole.ends state #[]
  · exact .inr ⟨console, made, calls, lines, makesConsole_iff.mpr ran, records⟩
  · refine .inl ⟨fault, after, _, ran, ?_⟩
    have failed : engine.runSnippet code state {} =
        .stopped (setupFailure (engine.faultText fault)) after { lines } :=
      Step.bind_of_done (Step.attempt_of_stopped ran)
    rw [evaluate_opened opened, failed, Evaluation.ofOutcome]

/-- Without an engine nothing completes. -/
theorem not_completed_of_unopened {early : Evaluation}
    (unopened : engine.opened start settings = .error early) (completion : Completion) :
    early ≠ .completed completion := by
  rintro rfl
  rw [Engine.opened] at unopened
  split at unopened
  · cases unopened
  · split at unopened
    · cases unopened
    · split at unopened <;> cases unopened

/-- An evaluation that completes is what comes of the snippet, with all lines free in the log. -/
theorem completesAs_of_completed {completion : Completion}
    (completed : engine.evaluate start settings code = .completed completion) :
    ∃ lines, CompletesAs engine start settings code completion { lines } := by
  cases opened : engine.opened start settings with
  | error early =>
    rw [Engine.evaluate, opened] at completed
    exact absurd completed (not_completed_of_unopened opened completion)
  | ok state =>
    obtain ⟨fault, _, _, _, failed⟩ | ⟨console, made, _, first, makes, _⟩ :=
      opened_cases opened code
    · cases completed.symm.trans failed
    · obtain ⟨_, lines, found, _, concludes⟩ := exists_concludes code console made first
      have completes : CompletesAs engine start settings code found { lines } :=
        ⟨state, console, made, _, opened, makes, concludes⟩
      cases completed.symm.trans completes.eq.1
      exact ⟨lines, completes⟩

end

end Scratchpad.Script
