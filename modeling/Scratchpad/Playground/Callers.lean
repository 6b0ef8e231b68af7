import Scratchpad.Moves
import Scratchpad.Playground.Runner

/-!
# Callers that share one embedded interpreter

Any number of callers ask for one interpreter, look at its stage and run source text, each making
one call. A call is a few steps, and the steps of different calls come in any order: one for every
write of the stage, of the cell, of the output area or of a sink, and one for every wait. Whoever
asks first gets the permit to load; the others wait until the outcome is kept.
-/
namespace Scratchpad

/-- The two calls that ask for an interpreter. -/
inductive Asking where
  | prepare
  | mount
deriving DecidableEq, Repr

/-- A call on an interpreter. -/
inductive Call where
  | ask (asking : Asking)
  | state
  | isLoading
  | run (code : String)
deriving DecidableEq, Repr

/-- What a call returns. -/
inductive CallResult where
  | prepared (stage : Stage)
  | mounted
  | state (stage : Stage)
  | isLoading (pending : Bool)
  | ran (run : SourceRun)

/-- What asking for an interpreter returns when its stage is read. -/
def Asking.result (stage : Stage) : Asking → CallResult
  | .prepare => .prepared stage
  | .mount => .mounted

/-- How far the caller with the permit has come with the load. -/
inductive LoadPoint where
  /-- It has done nothing. -/
  | entered
  /-- The stage turned to loading. -/
  | begun
  /-- The load was called. -/
  | fetching
  /-- The load came to an outcome. -/
  | fetched (outcome : Option Guest.Program)
  /-- The output area tells of the failure. -/
  | reported
  /-- The stage turned to the outcome. -/
  | settled (outcome : Option Guest.Program)

/-- How far a caller has come with its call. -/
inductive Position where
  /-- It has not called. -/
  | absent
  /-- It has called and done nothing. -/
  | called (call : Call)
  /-- It has the permit and has come to a point of the load. -/
  | loading (asking : Asking) (point : LoadPoint)
  /-- The outcome is kept, and the stage is still to be read. -/
  | kept (asking : Asking)
  /-- There was no program to run source text, and the stage is still to be read. -/
  | refused
  /-- The program runs a code. -/
  | executing (program : Guest.Program) (code : String)
  /-- The run is over, and these of its lines are still to be handed to the sinks. -/
  | delivering (lines : List SinkLine) (run : SourceRun)
  /-- The call is over. -/
  | returned (result : CallResult)

/-- What a caller did in a step that others can tell. -/
inductive CallerAct where
  /-- It wrote the stage. -/
  | staged (stage : Stage)
  /-- It called for the load. -/
  | loads
  /-- The load that it called for came to an outcome. -/
  | loaded (outcome : Option Guest.Program)
  /-- It kept the outcome in the cell. -/
  | kept
  /-- It wrote to the output area. -/
  | wrote (write : Transcript.Write)
  /-- It had the program run a code. -/
  | executed (code : String)
  | returned (result : CallResult)

/-- An act and the caller that did it. -/
structure Event where
  caller : Nat
  act : CallerAct

/-- An interpreter, the output area, and the callers. -/
structure Callers where
  runner : EmbeddedRunner
  output : Transcript := ""
  /-- The caller that has the permit to load. -/
  permit : Option Nat := none
  position : Nat → Position := fun _ => .absent
  /-- What was done, the latest first. -/
  log : List Event := []

namespace Callers

/-- A move: a caller calls, or takes the next step of its call. -/
inductive Move where
  | call (caller : Nat) (call : Call)
  | go (caller : Nat)
deriving DecidableEq, Repr

/-- How far the load of the interpreter has come. -/
def life (callers : Callers) : Lifecycle := callers.runner.embedded.life

/-- What a load comes to. -/
def outcome (callers : Callers) : Option Guest.Program := callers.runner.embedded.outcome

/-- The callers after one of them came to a position. -/
def place (callers : Callers) (caller : Nat) (position : Position) : Callers :=
  { callers with
    position := fun other => if other = caller then position else callers.position other }

/-- The callers after one of them did something that others can tell. -/
def note (callers : Callers) (caller : Nat) (act : CallerAct) : Callers :=
  { callers with log := ⟨caller, act⟩ :: callers.log }

/-- The callers after one of them wrote to the output area. -/
def write (callers : Callers) (caller : Nat) (write : Transcript.Write) : Callers :=
  { callers with output := callers.output.write write }.note caller (.wrote write)

/-- The callers after a step of the load. -/
def turn (callers : Callers) (step : Lifecycle.Step) : Callers :=
  { callers with
    runner := { callers.runner with
      embedded := { callers.runner.embedded with life := callers.life.step step } } }

/-- The callers after a call of one of them returned. -/
def finish (callers : Callers) (caller : Nat) (result : CallResult) : Callers :=
  (callers.place caller (.returned result)).note caller (.returned result)

/-- The callers after the next step of the load by the caller with the permit. The permit is given
back when the outcome is kept. -/
def load (callers : Callers) (caller : Nat) (asking : Asking) : LoadPoint → Callers
  | .entered =>
    ((callers.turn .begin).note caller (.staged .loading)).place caller (.loading asking .begun)
  | .begun => (callers.note caller .loads).place caller (.loading asking .fetching)
  | .fetching =>
    (callers.note caller (.loaded callers.outcome)).place caller
      (.loading asking (.fetched callers.outcome))
  | .fetched none =>
    (callers.write caller (.replace Embedded.loadFailureText)).place caller
      (.loading asking .reported)
  | .fetched (some program) =>
    ((callers.turn (.settle (some program))).note caller (.staged .ready)).place caller
      (.loading asking (.settled (some program)))
  | .reported =>
    ((callers.turn (.settle none)).note caller (.staged .failed)).place caller
      (.loading asking (.settled none))
  | .settled outcome =>
    { ((callers.turn (.store outcome)).note caller .kept).place caller (.kept asking) with
      permit := none }

/-- The callers after one of them handed a line to a sink, which may feed the output area. -/
def hand (callers : Callers) (caller : Nat) (line : SinkLine) : Callers :=
  match callers.runner.heard with
  | none => callers.write caller line.write
  | some _ => { callers with runner := (callers.runner.deliver [line]).2 }

/-- `EmbeddedPython::initialize`, `EmbeddedPython::run_source` — the callers after the next step of
one of them, if it has a call and need not wait. -/
def go? (callers : Callers) (caller : Nat) : Option Callers :=
  match callers.position caller with
  | .absent | .returned _ => none
  | .called (.ask asking) =>
    match callers.life.cell, callers.permit with
    | some _, _ => some (callers.place caller (.kept asking))
    | none, some _ => none
    | none, none =>
      some { callers.place caller (.loading asking .entered) with permit := some caller }
  | .called .state => some (callers.finish caller (.state callers.life.stage))
  | .called .isLoading =>
    some (callers.finish caller (.isLoading (Runner.isLoading callers.runner)))
  | .called (.run code) =>
    match callers.life.program? with
    | none => some (callers.place caller .refused)
    | some program =>
      some ((callers.note caller (.executed code)).place caller (.executing program code))
  | .loading asking point => some (callers.load caller asking point)
  | .kept asking => some (callers.finish caller (asking.result callers.life.stage))
  | .refused => some (callers.finish caller (.ran (.unavailable callers.life.stage)))
  | .executing program code =>
    let run := SourceRun.ofProgram program callers.runner.embedded.settings code
    some (callers.place caller (.delivering run.lines run))
  | .delivering (line :: lines) run =>
    some ((callers.hand caller line).place caller (.delivering lines run))
  | .delivering [] run => some (callers.finish caller (.ran run))

/-- The callers after a move, if it can be made. -/
def step? (callers : Callers) : Move → Option Callers
  | .call caller call =>
    match callers.position caller with
    | .absent => some (callers.place caller (.called call))
    | _ => none
  | .go caller => callers.go? caller

/-- The callers after a history of moves, if each of them could be made. -/
abbrev after? (callers : Callers) (history : List Move) : Option Callers :=
  Moves.after? step? callers history

/-- The steps of a caller, one by one. -/
inductive Goes (callers : Callers) (caller : Nat) : Callers → Prop
  /-- The outcome is kept, and asking need not wait. -/
  | proceed (asking : Asking) (outcome : Option Guest.Program)
    (position : callers.position caller = .called (.ask asking))
    (cell : callers.life.cell = some outcome) :
    Goes callers caller (callers.place caller (.kept asking))
  /-- There is no outcome, and asking takes the free permit. -/
  | enter (asking : Asking) (position : callers.position caller = .called (.ask asking))
    (cell : callers.life.cell = none) (free : callers.permit = none) :
    Goes callers caller
      { callers.place caller (.loading asking .entered) with permit := some caller }
  /-- The load goes on. -/
  | load (asking : Asking) (point : LoadPoint)
    (position : callers.position caller = .loading asking point) :
    Goes callers caller (callers.load caller asking point)
  /-- Asking returns. -/
  | answer (asking : Asking) (position : callers.position caller = .kept asking) :
    Goes callers caller (callers.finish caller (asking.result callers.life.stage))
  /-- A look at the stage returns. -/
  | look (position : callers.position caller = .called .state) :
    Goes callers caller (callers.finish caller (.state callers.life.stage))
  /-- A look at the flag of the run control returns. -/
  | control (position : callers.position caller = .called .isLoading) :
    Goes callers caller (callers.finish caller (.isLoading (Runner.isLoading callers.runner)))
  /-- A run finds no program. -/
  | refuse (code : String) (position : callers.position caller = .called (.run code))
    (missing : callers.life.program? = none) :
    Goes callers caller (callers.place caller .refused)
  /-- A run finds a program and begins. -/
  | execute (code : String) (program : Guest.Program)
    (position : callers.position caller = .called (.run code))
    (found : callers.life.program? = some program) :
    Goes callers caller
      ((callers.note caller (.executed code)).place caller (.executing program code))
  /-- A run without a program returns. -/
  | excuse (position : callers.position caller = .refused) :
    Goes callers caller (callers.finish caller (.ran (.unavailable callers.life.stage)))
  /-- A run of a program is over. -/
  | conclude (program : Guest.Program) (code : String) (run : SourceRun)
    (position : callers.position caller = .executing program code)
    (ended : run = .ofProgram program callers.runner.embedded.settings code) :
    Goes callers caller (callers.place caller (.delivering run.lines run))
  /-- A line of a run is handed to a sink. -/
  | hand (line : SinkLine) (lines : List SinkLine) (run : SourceRun)
    (position : callers.position caller = .delivering (line :: lines) run) :
    Goes callers caller ((callers.hand caller line).place caller (.delivering lines run))
  /-- A run of a program returns. -/
  | deliver (run : SourceRun) (position : callers.position caller = .delivering [] run) :
    Goes callers caller (callers.finish caller (.ran run))

/-- A caller goes on by one of its steps. -/
theorem goes_of_go {callers next : Callers} {caller : Nat}
    (taken : callers.go? caller = some next) : callers.Goes caller next := by
  cases position : callers.position caller with
  | absent => simp [go?, position] at taken
  | returned result => simp [go?, position] at taken
  | called call =>
    cases call with
    | ask asking =>
      cases cell : callers.life.cell with
      | some outcome =>
        simp only [go?, position, cell, Option.some.injEq] at taken
        exact taken ▸ .proceed asking outcome position cell
      | none =>
        cases free : callers.permit with
        | some loader => simp [go?, position, cell, free] at taken
        | none =>
          simp only [go?, position, cell, free, Option.some.injEq] at taken
          exact taken ▸ .enter asking position cell free
    | state =>
      simp only [go?, position, Option.some.injEq] at taken
      exact taken ▸ .look position
    | isLoading =>
      simp only [go?, position, Option.some.injEq] at taken
      exact taken ▸ .control position
    | run code =>
      cases found : callers.life.program? with
      | none =>
        simp only [go?, position, found, Option.some.injEq] at taken
        exact taken ▸ .refuse code position found
      | some program =>
        simp only [go?, position, found, Option.some.injEq] at taken
        exact taken ▸ .execute code program position found
  | loading asking point =>
    simp only [go?, position, Option.some.injEq] at taken
    exact taken ▸ .load asking point position
  | kept asking =>
    simp only [go?, position, Option.some.injEq] at taken
    exact taken ▸ .answer asking position
  | refused =>
    simp only [go?, position, Option.some.injEq] at taken
    exact taken ▸ .excuse position
  | executing program code =>
    simp only [go?, position, Option.some.injEq] at taken
    exact taken ▸ .conclude program code _ position rfl
  | delivering lines run =>
    cases lines with
    | nil =>
      simp only [go?, position, Option.some.injEq] at taken
      exact taken ▸ .deliver run position
    | cons line lines =>
      simp only [go?, position, Option.some.injEq] at taken
      exact taken ▸ .hand line lines run position

/-- A caller that has not called calls, or a caller goes on. -/
theorem step_cases {before after : Callers} {move : Move} (taken : before.step? move = some after) :
    (∃ caller call, move = .call caller call ∧ before.position caller = .absent ∧
      after = before.place caller (.called call)) ∨
    ∃ caller, move = .go caller ∧ before.Goes caller after := by
  cases move with
  | call caller call =>
    cases position : before.position caller with
    | absent =>
      simp only [step?, position, Option.some.injEq] at taken
      exact .inl ⟨caller, call, rfl, position, taken.symm⟩
    | _ => simp [step?, position] at taken
  | go caller => exact .inr ⟨caller, rfl, goes_of_go taken⟩

/-- A caller is where it was placed. -/
@[simp]
theorem position_place (callers : Callers) (caller : Nat) (position : Position) :
    (callers.place caller position).position caller = position := if_pos rfl

/-- No other caller is placed. -/
theorem position_place_of_ne (callers : Callers) {caller other : Nat} (position : Position)
    (different : other ≠ caller) :
    (callers.place caller position).position other = callers.position other := if_neg different

/-- The caller with the permit takes the next step of the load. -/
theorem step_loading {callers : Callers} {caller : Nat} {asking : Asking} {point : LoadPoint}
    (loading : callers.position caller = .loading asking point) :
    callers.step? (.go caller) = some (callers.load caller asking point) := by
  simp only [step?, go?, loading]

/-- A caller whose outcome is kept reads the stage and returns. -/
theorem step_kept {callers : Callers} {caller : Nat} {asking : Asking}
    (kept : callers.position caller = .kept asking) :
    callers.step? (.go caller) =
      some (callers.finish caller (asking.result callers.life.stage)) := by
  simp only [step?, go?, kept]

/-- A caller that asks for an interpreter with a kept outcome need not wait. -/
theorem step_ask_kept {callers : Callers} {caller : Nat} {asking : Asking}
    {outcome : Option Guest.Program} (asked : callers.position caller = .called (.ask asking))
    (cell : callers.life.cell = some outcome) :
    callers.step? (.go caller) = some (callers.place caller (.kept asking)) := by
  simp only [step?, go?, asked, cell]

/-- A caller that asks for an interpreter without an outcome takes the permit if it is free. -/
theorem step_ask_free {callers : Callers} {caller : Nat} {asking : Asking}
    (asked : callers.position caller = .called (.ask asking)) (cell : callers.life.cell = none)
    (free : callers.permit = none) :
    callers.step? (.go caller) =
      some { callers.place caller (.loading asking .entered) with permit := some caller } := by
  simp only [step?, go?, asked, cell, free]

/-- A step of a caller and the steps that it takes afterwards are steps of that caller. -/
theorem after_go {before between last : Callers} {caller count : Nat}
    (taken : before.step? (.go caller) = some between)
    (rest : between.after? (List.replicate count (.go caller)) = some last) :
    before.after? (List.replicate (count + 1) (.go caller)) = some last := by
  rw [List.replicate_succ']
  exact Moves.after_trans (Moves.after_cons.mpr ⟨before, rfl, taken⟩) rest

/-- A caller that nothing interferes with loads the interpreter as asking for it does. -/
theorem after_ask_alone (callers : Callers) {caller : Nat} {asking : Asking}
    (asked : callers.position caller = .called (.ask asking)) (free : callers.permit = none) :
    ∃ count last, callers.after? (List.replicate count (.go caller)) = some last ∧
      last.runner = callers.runner.load.2 ∧
      last.output = callers.output.writeAll callers.runner.load.1 ∧
      last.position caller = .returned (asking.result last.life.stage) := by
  cases cell : callers.runner.embedded.life.cell with
  | some outcome =>
    refine ⟨2, _, after_go (step_ask_kept asked cell)
      (after_go (step_kept (position_place ..)) rfl), ?_, ?_, position_place ..⟩
    · simp only [EmbeddedRunner.load, Embedded.load, Lifecycle.load, cell]
      rfl
    · simp only [EmbeddedRunner.load, Embedded.load, cell]
      rfl
  | none =>
    have enters := step_ask_free asked cell free
    let entered :=
      { callers.place caller (.loading asking .entered) with permit := some caller }
    let begun := entered.load caller asking .entered
    let fetching := begun.load caller asking .begun
    let fetched := fetching.load caller asking .fetching
    have begins : entered.step? (.go caller) = some begun := step_loading (position_place ..)
    have calls : begun.step? (.go caller) = some fetching := step_loading (position_place ..)
    have fetches : fetching.step? (.go caller) = some fetched := step_loading (position_place ..)
    have arrived : fetched.position caller =
        .loading asking (.fetched callers.runner.embedded.outcome) := position_place ..
    cases outcome : callers.runner.embedded.outcome with
    | none =>
      rw [outcome] at arrived
      let reported := fetched.load caller asking (.fetched none)
      let settled := reported.load caller asking .reported
      have reports : reported.step? (.go caller) = some settled := step_loading (position_place ..)
      refine ⟨8, _, after_go enters (after_go begins (after_go calls (after_go fetches
        (after_go (step_loading arrived) (after_go reports (after_go
          (step_loading (position_place ..)) (after_go (step_kept (position_place ..))
            rfl))))))), ?_, ?_, position_place ..⟩
      · simp only [EmbeddedRunner.load, Embedded.load, Lifecycle.load, cell, outcome]
        rfl
      · simp only [EmbeddedRunner.load, Embedded.load, cell, outcome]
        rfl
    | some program =>
      rw [outcome] at arrived
      refine ⟨7, _, after_go enters (after_go begins (after_go calls (after_go fetches
        (after_go (step_loading arrived) (after_go
          (step_loading (position_place ..)) (after_go (step_kept (position_place ..))
            rfl)))))), ?_, ?_, position_place ..⟩
      · simp only [EmbeddedRunner.load, Embedded.load, Lifecycle.load, cell, outcome]
        rfl
      · simp only [EmbeddedRunner.load, Embedded.load, cell, outcome]
        rfl

/-- A line handed over writes and is heard as the sinks of the interpreter have it. -/
theorem hand_eq (callers : Callers) (caller : Nat) (line : SinkLine) :
    (callers.hand caller line).runner = (callers.runner.deliver [line]).2 ∧
      (callers.hand caller line).output =
        callers.output.writeAll (callers.runner.deliver [line]).1 := by
  cases heard : callers.runner.heard with
  | none =>
    simp only [hand, EmbeddedRunner.deliver, heard]
    exact ⟨rfl, rfl⟩
  | some lines =>
    simp only [hand, EmbeddedRunner.deliver, heard]
    exact ⟨trivial, rfl⟩

/-- A caller that nothing interferes with hands its lines over as the interpreter delivers them. -/
theorem after_deliver_alone (lines : List SinkLine) (callers : Callers) {caller : Nat}
    {run : SourceRun} (delivering : callers.position caller = .delivering lines run) :
    ∃ count last, callers.after? (List.replicate count (.go caller)) = some last ∧
      last.runner = (callers.runner.deliver lines).2 ∧
      last.output = callers.output.writeAll (callers.runner.deliver lines).1 ∧
      last.position caller = .returned (.ran run) := by
  induction lines generalizing callers with
  | nil =>
    have returns : callers.step? (.go caller) = some (callers.finish caller (.ran run)) := by
      simp only [step?, go?, delivering]
    rw [EmbeddedRunner.deliver_nil]
    exact ⟨1, _, after_go returns rfl, rfl, rfl, position_place ..⟩
  | cons line lines ih =>
    have hands : callers.step? (.go caller) =
        some ((callers.hand caller line).place caller (.delivering lines run)) := by
      simp only [step?, go?, delivering]
    obtain ⟨count, last, reached, runner, output, returned⟩ :=
      ih ((callers.hand caller line).place caller (.delivering lines run)) (position_place ..)
    obtain ⟨heard, written⟩ := hand_eq callers caller line
    refine ⟨count + 1, last, after_go hands reached, ?_, ?_, returned⟩
    · rw [runner, EmbeddedRunner.deliver_cons]
      change ((callers.hand caller line).runner.deliver lines).2 = _
      rw [heard]
    · rw [output, EmbeddedRunner.deliver_cons, Transcript.writeAll_append, ← written]
      change Transcript.writeAll (callers.hand caller line).output
        ((callers.hand caller line).runner.deliver lines).1 = _
      rw [heard]

/-- A caller that nothing interferes with runs source text as the interpreter does. -/
theorem after_run_alone (callers : Callers) {caller : Nat} {code : String}
    (called : callers.position caller = .called (.run code)) :
    ∃ count last, callers.after? (List.replicate count (.go caller)) = some last ∧
      last.runner = (callers.runner.runSource code).2.2 ∧
      last.output = callers.output.writeAll (callers.runner.runSource code).2.1 ∧
      last.position caller = .returned (.ran (callers.runner.runSource code).1) := by
  cases kept : callers.runner.embedded.life.program? with
  | none =>
    have looks : callers.step? (.go caller) = some (callers.place caller .refused) := by
      have missing : callers.life.program? = none := kept
      simp only [step?, go?, called, missing]
    have returns : (callers.place caller .refused).step? (.go caller) =
        some ((callers.place caller .refused).finish caller
          (.ran (.unavailable callers.life.stage))) := by
      simp only [step?, go?, position_place]
      rfl
    have refusal : callers.runner.embedded.runSource code = .unavailable callers.life.stage := by
      rw [Embedded.runSource, kept]
      rfl
    have nothing : callers.runner.deliver (SourceRun.unavailable callers.life.stage).lines =
        ([], callers.runner) := EmbeddedRunner.deliver_nil callers.runner
    rw [EmbeddedRunner.runSource, refusal, nothing]
    exact ⟨2, _, after_go looks (after_go returns rfl), rfl, rfl, position_place ..⟩
  | some program =>
    have found : callers.life.program? = some program := kept
    let executing := (callers.note caller (.executed code)).place caller (.executing program code)
    let run := SourceRun.ofProgram program callers.runner.embedded.settings code
    have looks : callers.step? (.go caller) = some executing := by
      simp only [step?, go?, called, found]
      rfl
    have executes : executing.step? (.go caller) =
        some (executing.place caller (.delivering run.lines run)) := by
      have placed : executing.position caller = .executing program code := position_place ..
      simp only [step?, go?, placed]
      rfl
    have ran : callers.runner.embedded.runSource code = run := by
      rw [Embedded.runSource, kept]
    obtain ⟨count, last, reached, runner, output, returned⟩ :=
      after_deliver_alone run.lines (executing.place caller (.delivering run.lines run))
        (position_place ..)
    rw [EmbeddedRunner.runSource, ran]
    exact ⟨count + 2, last, after_go looks (after_go executes reached), runner, output, returned⟩

end Callers

end Scratchpad
