import Mathlib.Logic.Function.Basic
import Scratchpad.Guest.Run
import Scratchpad.Moves

/-!
# Runs on one engine

The guest of a run does its work on a thread of its own, whenever there is one for it, while its
host waits for it or for a timer. All runs of an interpreter share the epoch of one engine. A guest
that starts sets its deadline one epoch ahead; a timer that fires begins the next epoch and has its
host return; and a guest that comes to a check of the epoch is interrupted if its deadline is not
ahead any more. Nothing takes a guest back that its host has given up, not even one that has not
started. Runs are numbered, and the moves of all of them come in any order.
-/
namespace Scratchpad.Guest

/-- How far the host of a run is. -/
inductive Host where
  /-- It has not asked for the run. -/
  | absent
  /-- It waits for the guest or the timer. -/
  | waiting
  /-- It returned a result. -/
  | returned (result : Except Failure Captured)
deriving Repr

/-- How far the guest of a run is. -/
inductive Task where
  /-- There is none. -/
  | absent
  /-- It has a code, and no thread. -/
  | queued (code : String)
  /-- It runs, and is interrupted in no epoch before its deadline. -/
  | running (code : String) (deadline : Nat)
  /-- It came to an end. -/
  | ended (result : Except Failure Captured)
deriving Repr

/-- An interpreter and the runs on its engine. -/
structure Engine where
  program : Program
  settings : InterpreterSettings
  epoch : Nat := 0
  host : Nat → Host := fun _ => .absent
  task : Nat → Task := fun _ => .absent

/-- What a run reports that is interrupted when its guest has done a number of actions. -/
def Program.interrupted (program : Program) (settings : InterpreterSettings) (code : String)
    (actions : Nat) (opened : State) : Failure :=
  let (_, state) := opened.performAll ((program.actions (arguments code)).take actions)
  if state.limiter.tripped then refusedFailure settings else .timedOut settings.timeout

/-- Whether the guest of a run comes to an end that does not take an interrupt. -/
def Program.endsItself (program : Program) (settings : InterpreterSettings) (code : String) :
    Bool :=
  match program.run settings code with
  | .ok _ => true
  | .error failure => !failure.isTimeout

/-- A program that cannot be started is never out of time. -/
theorem Program.opened_timeout {program : Program} {settings : InterpreterSettings}
    {limit : TimeSpan} : program.opened settings ≠ .error (.timedOut limit) := by
  unfold opened
  split
  · nofun
  · dsimp only
    split
    · nofun
    · split <;> nofun

/-- The end of a guest that is judged to be out of time is so by the settings. -/
theorem judge_timeout {settings : InterpreterSettings} {state : State} {ended : End}
    {limit : TimeSpan} (judged : judge settings state ended = .error (.timedOut limit)) :
    limit = settings.timeout := by
  cases ended with
  | outOfTime => exact (Failure.timedOut.inj (Except.error.inj judged)).symm
  | returned => cases judged
  | exited _ | trapped | outOfFuel =>
    unfold judge refusedFailure at judged
    dsimp only at judged
    split at judged <;> cases judged

/-- A guest that comes to no end of its own is out of time, by the settings. -/
theorem Program.run_timeout {program : Program} {settings : InterpreterSettings} {code : String}
    (outlasts : program.endsItself settings code = false) :
    program.run settings code = .error (.timedOut settings.timeout) := by
  cases result : program.run settings code with
  | ok _ => simp [endsItself, result] at outlasts
  | error failure =>
    cases failure with
    | timedOut limit =>
      unfold run at result
      split at result
      · next failed =>
        cases result
        exact absurd failed opened_timeout
      · rw [judge_timeout result]
    | _ => simp [endsItself, result, Failure.isTimeout] at outlasts

namespace Engine

/-- One move of one run. -/
inductive Move where
  /-- A host asks for a run of a code. -/
  | spawn (run : Nat) (code : String)
  /-- The guest gets its thread, and sets its deadline. -/
  | start (run : Nat)
  /-- The guest has done a number of actions, and checks the epoch. -/
  | check (run : Nat) (actions : Nat)
  /-- The guest comes to its own end. -/
  | finish (run : Nat)
  /-- The host returns what the guest left. -/
  | join (run : Nat)
  /-- The timer of the host fires, and the host returns that the time is over. -/
  | timer (run : Nat)
deriving DecidableEq, Repr

/-- An engine that no run has used. -/
def idle (program : Program) (settings : InterpreterSettings) : Engine := { program, settings }

/-- The engine after the host of a run got on. -/
def setHost (engine : Engine) (run : Nat) (host : Host) : Engine :=
  { engine with host := Function.update engine.host run host }

/-- The engine after the guest of a run got on. -/
def setTask (engine : Engine) (run : Nat) (task : Task) : Engine :=
  { engine with task := Function.update engine.task run task }

/-- The engine in the next epoch. -/
def nextEpoch (engine : Engine) : Engine := { engine with epoch := engine.epoch + 1 }

/-- `WasmInterpreter::execute` — the engine after a move, if its run has come far enough for it and
not too far. -/
def step? (engine : Engine) : Move → Option Engine
  | .spawn run code =>
    match engine.host run with
    | .absent => some ((engine.setHost run .waiting).setTask run (.queued code))
    | _ => none
  | .start run =>
    match engine.task run with
    | .queued code => some (engine.setTask run (.running code (engine.epoch + 1)))
    | _ => none
  | .check run actions =>
    match engine.task run, engine.program.opened engine.settings with
    | .running code deadline, .ok opened =>
      if deadline ≤ engine.epoch then
        some (engine.setTask run
          (.ended (.error (engine.program.interrupted engine.settings code actions opened))))
      else some engine
    | _, _ => none
  | .finish run =>
    match engine.task run with
    | .running code _ =>
      if engine.program.endsItself engine.settings code then
        some (engine.setTask run (.ended (engine.program.run engine.settings code)))
      else none
    | _ => none
  | .join run =>
    match engine.host run, engine.task run with
    | .waiting, .ended result => some (engine.setHost run (.returned result))
    | _, _ => none
  | .timer run =>
    match engine.host run with
    | .waiting =>
      some (engine.setHost run (.returned (.error (.timedOut engine.settings.timeout)))).nextEpoch
    | _ => none

/-- The engine after a history of moves, if each of them could be made. -/
abbrev after? (engine : Engine) (history : List Move) : Option Engine :=
  Moves.after? step? engine history

@[simp]
theorem setHost_host (engine : Engine) (run : Nat) (host : Host) :
    (engine.setHost run host).host = Function.update engine.host run host := rfl

@[simp]
theorem setHost_task (engine : Engine) (run : Nat) (host : Host) :
    (engine.setHost run host).task = engine.task := rfl

@[simp]
theorem setHost_epoch (engine : Engine) (run : Nat) (host : Host) :
    (engine.setHost run host).epoch = engine.epoch := rfl

@[simp]
theorem setTask_host (engine : Engine) (run : Nat) (task : Task) :
    (engine.setTask run task).host = engine.host := rfl

@[simp]
theorem setTask_task (engine : Engine) (run : Nat) (task : Task) :
    (engine.setTask run task).task = Function.update engine.task run task := rfl

@[simp]
theorem setTask_epoch (engine : Engine) (run : Nat) (task : Task) :
    (engine.setTask run task).epoch = engine.epoch := rfl

@[simp]
theorem nextEpoch_host (engine : Engine) : engine.nextEpoch.host = engine.host := rfl

@[simp]
theorem nextEpoch_task (engine : Engine) : engine.nextEpoch.task = engine.task := rfl

@[simp]
theorem nextEpoch_epoch (engine : Engine) : engine.nextEpoch.epoch = engine.epoch + 1 := rfl

/-- Every move asks for a run, starts a guest, lets one pass a check, ends one, hands over what one
left, or fires a timer. -/
theorem step_cases {engine next : Engine} {move : Move} (taken : engine.step? move = some next) :
    (∃ run code, move = .spawn run code ∧ engine.host run = .absent ∧
      next = (engine.setHost run .waiting).setTask run (.queued code)) ∨
    (∃ run code, move = .start run ∧ engine.task run = .queued code ∧
      next = engine.setTask run (.running code (engine.epoch + 1))) ∨
    (∃ run actions code deadline, move = .check run actions ∧
      engine.task run = .running code deadline ∧ engine.epoch < deadline ∧ next = engine) ∨
    (∃ run code deadline result, engine.task run = .running code deadline ∧
      (move = .finish run ∨ deadline ≤ engine.epoch ∧ ∃ actions, move = .check run actions) ∧
      next = engine.setTask run (.ended result)) ∨
    (∃ run result, move = .join run ∧ engine.host run = .waiting ∧
      engine.task run = .ended result ∧ next = engine.setHost run (.returned result)) ∨
    (∃ run, move = .timer run ∧ engine.host run = .waiting ∧
      next = (engine.setHost run
        (.returned (.error (.timedOut engine.settings.timeout)))).nextEpoch) := by
  cases move with
  | spawn run code =>
    cases host : engine.host run with
    | absent =>
      simp only [step?, host, Option.some.injEq] at taken
      exact .inl ⟨run, code, rfl, host, taken.symm⟩
    | waiting => simp [step?, host] at taken
    | returned _ => simp [step?, host] at taken
  | start run =>
    cases task : engine.task run with
    | queued code =>
      simp only [step?, task, Option.some.injEq] at taken
      exact .inr (.inl ⟨run, code, rfl, task, taken.symm⟩)
    | absent => simp [step?, task] at taken
    | running _ _ => simp [step?, task] at taken
    | ended _ => simp [step?, task] at taken
  | check run actions =>
    cases task : engine.task run with
    | running code deadline =>
      cases opened : engine.program.opened engine.settings with
      | error _ => simp [step?, task, opened] at taken
      | ok state =>
        simp only [step?, task, opened] at taken
        by_cases passed : deadline ≤ engine.epoch
        · rw [if_pos passed] at taken
          exact .inr (.inr (.inr (.inl ⟨run, code, deadline, _, task,
            .inr ⟨passed, actions, rfl⟩, (Option.some.inj taken).symm⟩)))
        · rw [if_neg passed] at taken
          exact .inr (.inr (.inl ⟨run, actions, code, deadline, rfl, task, Nat.lt_of_not_le passed,
            (Option.some.inj taken).symm⟩))
    | absent => simp [step?, task] at taken
    | queued _ => simp [step?, task] at taken
    | ended _ => simp [step?, task] at taken
  | finish run =>
    cases task : engine.task run with
    | running code deadline =>
      by_cases ends : engine.program.endsItself engine.settings code = true
      · simp only [step?, task, if_pos ends, Option.some.injEq] at taken
        exact .inr (.inr (.inr (.inl ⟨run, code, deadline, _, task, .inl rfl, taken.symm⟩)))
      · simp [step?, task, ends] at taken
    | absent => simp [step?, task] at taken
    | queued _ => simp [step?, task] at taken
    | ended _ => simp [step?, task] at taken
  | join run =>
    cases host : engine.host run with
    | waiting =>
      cases task : engine.task run with
      | ended result =>
        simp only [step?, host, task, Option.some.injEq] at taken
        exact .inr (.inr (.inr (.inr (.inl ⟨run, result, rfl, host, task, taken.symm⟩))))
      | absent => simp [step?, host, task] at taken
      | queued _ => simp [step?, host, task] at taken
      | running _ _ => simp [step?, host, task] at taken
    | absent => simp [step?, host] at taken
    | returned _ => simp [step?, host] at taken
  | timer run =>
    cases host : engine.host run with
    | waiting =>
      simp only [step?, host, Option.some.injEq] at taken
      exact .inr (.inr (.inr (.inr (.inr ⟨run, rfl, host, taken.symm⟩))))
    | absent => simp [step?, host] at taken
    | returned _ => simp [step?, host] at taken

/-- No move changes the program or the settings. -/
theorem step_program {engine next : Engine} {move : Move} (taken : engine.step? move = some next) :
    next.program = engine.program ∧ next.settings = engine.settings := by
  rcases step_cases taken with ⟨_, _, _, _, rfl⟩ | ⟨_, _, _, _, rfl⟩ |
    ⟨_, _, _, _, _, _, _, rfl⟩ | ⟨_, _, _, _, _, _, rfl⟩ | ⟨_, _, _, _, _, rfl⟩ | ⟨_, _, _, rfl⟩ <;>
  exact ⟨rfl, rfl⟩

/-- The engine after a run was asked for and its guest started. -/
def begun (engine : Engine) (run : Nat) (code : String) : Engine :=
  ((engine.setHost run .waiting).setTask run (.queued code)).setTask run
    (.running code (engine.epoch + 1))

/-- A run that was asked for can start. -/
theorem after_begun (engine : Engine) {run : Nat} (code : String)
    (absent : engine.host run = .absent) :
    engine.after? [.start run, .spawn run code] = some (engine.begun run code) := by
  let spawned := (engine.setHost run .waiting).setTask run (.queued code)
  have spawns : engine.step? (.spawn run code) = some spawned := by
    simp only [step?, absent]
    rfl
  have starts : spawned.step? (.start run) = some (engine.begun run code) := by
    simp only [step?, spawned, setTask_task, Function.update_self]
    rfl
  change (engine.step? (.spawn run code)).bind (·.step? (.start run)) = _
  rw [spawns, Option.bind_some, starts]

/-- The host of a run that started waits. -/
@[simp]
theorem begun_host (engine : Engine) (run : Nat) (code : String) :
    (engine.begun run code).host run = .waiting := Function.update_self ..

/-- The guest of a run that started runs. -/
@[simp]
theorem begun_task (engine : Engine) (run : Nat) (code : String) :
    (engine.begun run code).task run = .running code (engine.epoch + 1) := Function.update_self ..

/-- A run that no other interferes with returns what its guest leaves, if that comes to an end. -/
theorem after_own_end (engine : Engine) {run : Nat} {code : String}
    (absent : engine.host run = .absent)
    (ends : engine.program.endsItself engine.settings code = true) :
    ∃ last, engine.after? [.join run, .finish run, .start run, .spawn run code] = some last ∧
      last.host run = .returned (engine.program.run engine.settings code) := by
  let result := engine.program.run engine.settings code
  let ended := (engine.begun run code).setTask run (.ended result)
  have finishes : (engine.begun run code).step? (.finish run) = some ended := by
    simp only [step?, begun_task]
    exact if_pos ends
  have waits : ended.host run = .waiting := begun_host engine run code
  have left : ended.task run = .ended result := Function.update_self ..
  have joins : ended.step? (.join run) = some (ended.setHost run (.returned result)) := by
    simp only [step?, left, waits]
  refine ⟨ended.setHost run (.returned result), ?_, Function.update_self ..⟩
  change ((engine.after? [.start run, .spawn run code]).bind (·.step? (.finish run))).bind
    (·.step? (.join run)) = _
  rw [after_begun engine code absent, Option.bind_some, finishes, Option.bind_some, joins]

/-- A run that no other interferes with returns what the program does with the code. -/
theorem after_alone (engine : Engine) {run : Nat} (code : String)
    (absent : engine.host run = .absent) :
    ∃ history last, engine.after? history = some last ∧
      last.host run = .returned (engine.program.run engine.settings code) := by
  cases ends : engine.program.endsItself engine.settings code with
  | true => exact ⟨_, after_own_end engine absent ends⟩
  | false =>
    let fired := ((engine.begun run code).setHost run
      (.returned (.error (.timedOut engine.settings.timeout)))).nextEpoch
    have fires : (engine.begun run code).step? (.timer run) = some fired := by
      simp only [step?, begun_host]
      rfl
    refine ⟨[.timer run, .start run, .spawn run code], fired, ?_, ?_⟩
    · change (engine.after? [.start run, .spawn run code]).bind (·.step? (.timer run)) = _
      rw [after_begun engine code absent, Option.bind_some, fires]
    · rw [Program.run_timeout ends]
      exact Function.update_self ..

end Engine

end Scratchpad.Guest
