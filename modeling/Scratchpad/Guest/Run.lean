import Scratchpad.Failure
import Scratchpad.Guest.Program
import Scratchpad.Settings
import Scratchpad.Text.Utf8

/-!
# Runs of a guest

A run starts a program from nothing, gives it the arguments of an interpreter, keeps the beginning
of each stream, and judges its end. A plain return is a success; every other end is a memory
failure if a growth request was refused before, and else what it says itself.
-/
namespace Scratchpad.Guest

/-- `ExecutionResult` — what a run left behind. -/
structure Captured where
  output : String
  error : String
  status : Int
deriving DecidableEq, Repr, Inhabited

/-- `ExecutionResult::is_success` — whether a run exited with status zero. -/
def Captured.isSuccess (captured : Captured) : Bool := captured.status = 0

/-- The arguments that an interpreter gets to run a code. -/
def arguments (code : String) : List String := ["python", "-c", code]

/-- `RunState` — a guest in the middle of its run. -/
structure State where
  limiter : Limiter
  /-- Pages of linear memory. -/
  pages : Nat
  /-- Table elements. -/
  elements : Nat
  /-- Everything written to the output stream, latest first. -/
  output : List (List UInt8) := []
  /-- Everything written to the error stream, latest first. -/
  error : List (List UInt8) := []
deriving Inhabited

namespace State

/-- Grow the memory: no growth at all always succeeds, and a size that the limiter grants is still
refused if no memory can have it. -/
def growMemory (state : State) (more : Nat) : Bool × State :=
  if more = 0 then (true, state)
  else
    let wanted := state.pages + more
    let (granted, limiter) := state.limiter.ask (.memory (wanted * pageSize))
    if granted && wanted ≤ maxPages then (true, { state with limiter, pages := wanted })
    else (false, { state with limiter })

/-- Grow the table; no growth at all always succeeds. -/
def growTable (state : State) (more : Nat) : Bool × State :=
  if more = 0 then (true, state)
  else
    let wanted := state.elements + more
    let (granted, limiter) := state.limiter.ask (.table wanted)
    if granted then (true, { state with limiter, elements := wanted })
    else (false, { state with limiter })

/-- Perform one action; the flag says whether the guest goes on. -/
def perform (state : State) : Action → Bool × State
  | .write .output bytes => (true, { state with output := bytes :: state.output })
  | .write .error bytes => (true, { state with error := bytes :: state.error })
  | .growMemory pages required =>
    let (granted, state) := state.growMemory pages
    (granted || !required, state)
  | .growTable elements required =>
    let (granted, state) := state.growTable elements
    (granted || !required, state)

/-- Perform actions in order, until one stops the guest. -/
def performAll (state : State) : List Action → Bool × State
  | [] => (true, state)
  | action :: rest =>
    match state.perform action with
    | (true, state) => state.performAll rest
    | (false, state) => (false, state)

end State

/-- How a run ended, as its host sees it. -/
inductive End where
  | returned
  | exited (status : Int)
  | trapped
  | outOfFuel
  | outOfTime
deriving DecidableEq, Repr

/-- The largest status with which a guest can exit; any other request to exit is a trap. -/
def maxStatus : Int := 125

/-- The end of a guest that did everything before. -/
def Ending.seen (ending : Ending) (settings : InterpreterSettings) : End :=
  match ending with
  | .returns => .returned
  | .exits status => if 0 ≤ status ∧ status ≤ maxStatus then .exited status else .trapped
  | .traps => .trapped
  | .spins => if settings.maxFuel.isSome then .outOfFuel else .outOfTime

/-- The least budget of instructions with which an entry function gets anywhere. Instructions are
not counted beyond that: a program is known by its actions, and how many instructions these take is
not. A reactive guest may run out of a budget between any two of its actions. -/
def leastFuel : Nat := 2

/-- Whether a budget of instructions is too small to begin with. -/
def starved (settings : InterpreterSettings) : Bool :=
  match settings.maxFuel with
  | some fuel => fuel < leastFuel
  | none => false

/-- Run the entry function of a started guest. -/
def enter (program : Program) (settings : InterpreterSettings) (code : String) (state : State) :
    End × State :=
  if starved settings then (.outOfFuel, state)
  else
    match state.performAll (program.actions (arguments code)) with
    | (true, state) => (program.ending.seen settings, state)
    | (false, state) => (.trapped, state)

/-- A started guest that is not starved comes to its ending, unless one of its actions stops it. -/
theorem enter_eq (program : Program) (settings : InterpreterSettings) (code : String)
    (state : State) :
    let performed := state.performAll (program.actions (arguments code))
    enter program settings code state =
      if starved settings then (.outOfFuel, state)
      else (if performed.1 then program.ending.seen settings else .trapped, performed.2) := by
  intro performed
  have same : state.performAll (program.actions (arguments code)) = performed := rfl
  rw [enter, same]
  obtain ⟨goesOn, last⟩ := performed
  cases goesOn <;> rfl

/-- The text of a stream: its first bytes up to a ceiling, read as UTF-8. -/
def captureText (ceiling : Nat) (written : List (List UInt8)) : String :=
  Text.Utf8.lossyString (written.reverse.flatten.take ceiling)

/-- What a run with a status left behind. -/
def State.capture (state : State) (settings : InterpreterSettings) (status : Int) : Captured where
  output := captureText settings.maxOutput state.output
  error := captureText settings.maxOutput state.error
  status := status

/-- The text of a trap. -/
def trapText : String := "error while executing at wasm backtrace"

/-- The failure of a run in which a growth request was refused. -/
def refusedFailure (settings : InterpreterSettings) : Failure :=
  .memoryLimit ("linear memory limit of " ++ toString settings.maxMemory ++ " bytes reached")

/-- `WasmInterpreter::execute_sync` — judge the end of a run: time ends it whatever it did, a return
is a success, and any other end is a memory failure if a growth request was refused. -/
def judge (settings : InterpreterSettings) (state : State) : End → Except Failure Captured
  | .outOfTime => .error (.timedOut settings.timeout)
  | .returned => .ok (state.capture settings 0)
  | other =>
    if state.limiter.tripped then .error (refusedFailure settings)
    else
      match other with
      | .exited status => .ok (state.capture settings status)
      | .outOfFuel => .error (.outOfFuel settings.maxFuel)
      | _ => .error (.execution trapText)

/-- A run is judged to have ended with a status exactly if it returned, or exited and no request was
refused. -/
theorem judge_eq_ok {settings : InterpreterSettings} {state : State} {ended : End}
    {captured : Captured} : judge settings state ended = .ok captured ↔
      ended = .returned ∧ state.capture settings 0 = captured ∨
      ∃ status, ended = .exited status ∧ state.limiter.tripped = false ∧
        state.capture settings status = captured := by
  cases ended with
  | returned | outOfTime => simp [judge]
  | exited _ | trapped | outOfFuel => cases tripped : state.limiter.tripped <;> simp [judge, tripped]

/-- The limiter after a program's first memory and table have been asked for. -/
def Program.instantiate (program : Program) (settings : InterpreterSettings) : Limiter :=
  let limiter : Limiter := { maxMemory := settings.maxMemory }
  let limiter := match program.memory with
    | some pages => limiter.record (.memory (pages * pageSize))
    | none => limiter
  match program.table with
  | some elements => limiter.record (.table elements)
  | none => limiter

/-- `WasmInterpreter::execute_sync` — the guest of a program when its entry function is called. What
goes wrong first is an import that nobody provides, then a refused memory or table, and last a
missing entry function. -/
def Program.opened (program : Program) (settings : InterpreterSettings) : Except Failure State :=
  if program.unresolved then .error (.load "failed to instantiate: unknown import")
  else
    let limiter := program.instantiate settings
    if limiter.tripped then .error (.memoryLimit "memory limit exceeded during instantiation")
    else
      match program.entry with
      | .missing => .error (.load "missing _start export: not found")
      | .mistyped => .error (.load "missing _start export: another type")
      | .proper =>
        .ok { limiter, pages := program.memory.getD 0, elements := program.table.getD 0 }

/-- `WasmInterpreter::execute` — run a program on a code. -/
def Program.run (program : Program) (settings : InterpreterSettings) (code : String) :
    Except Failure Captured :=
  match program.opened settings with
  | .error failure => .error failure
  | .ok state =>
    let (ended, state) := enter program settings code state
    judge settings state ended

/-- A program that can be started is judged by the end of its guest. -/
theorem Program.run_opened {program : Program} {settings : InterpreterSettings} {opened : State}
    (started : program.opened settings = .ok opened) (code : String) :
    program.run settings code = judge settings (enter program settings code opened).2
      (enter program settings code opened).1 := by
  rw [run, started]

end Scratchpad.Guest
