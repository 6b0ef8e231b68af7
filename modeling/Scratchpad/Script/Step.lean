import Scratchpad.Script.Completion

/-!
# Steps

Whatever is done with an engine changes the state of the engine and the log of the console, and ends
with a value or is cut short. The log is a cell that is taken for as long as somebody changes it;
the thread that asks for it meanwhile comes to an end itself.
-/
namespace Scratchpad.Script

/-- The lines written to the console, earliest first. -/
structure Log where
  lines : Array ConsoleLine := #[]
  /-- Whether somebody has taken the lines to change them. -/
  taken : Bool := false
deriving DecidableEq, Repr, Inhabited

/-- How a step ended, with the state of the engine and the log at its end. -/
inductive Outcome (σ ε α : Type) where
  | done (value : α) (state : σ) (log : Log)
  | stopped (cause : ε) (state : σ) (log : Log)
  /-- The log was asked for while it was taken, which ends the thread with a message. -/
  | clashed (message : String)

/-- The log at the end of a step, if the log was free whenever it was asked for. -/
def Outcome.log? {σ ε α : Type} : Outcome σ ε α → Option Log
  | .done _ _ log | .stopped _ _ log => some log
  | .clashed _ => none

/-- What is done to the state of an engine and the log. -/
def Step (σ ε α : Type) : Type := σ → Log → Outcome σ ε α

namespace Step

variable {σ ε ε' α β : Type}

/-- The step that does nothing. -/
@[always_inline, inline]
protected def pure (value : α) : Step σ ε α := fun state log => .done value state log

/-- One step after another. -/
@[always_inline, inline]
protected def bind (step : Step σ ε α) (next : α → Step σ ε β) : Step σ ε β := fun state log =>
  match step state log with
  | .done value state log => next value state log
  | .stopped cause state log => .stopped cause state log
  | .clashed message => .clashed message

instance : Monad (Step σ ε) where
  pure := Step.pure
  bind := Step.bind

/-- Change the state and find something. -/
@[always_inline, inline]
def change (step : σ → α × σ) : Step σ ε α := fun state log =>
  let (value, state) := step state
  .done value state log

/-- Cut what is done short. -/
def stop (cause : ε) : Step σ ε α := fun state log => .stopped cause state log

/-- Do a step and go on however it ends. -/
@[inline]
def attempt (step : Step σ ε α) : Step σ ε' (Except ε α) := fun state log =>
  match step state log with
  | .done value state log => .done (.ok value) state log
  | .stopped cause state log => .done (.error cause) state log
  | .clashed message => .clashed message

/-- The text of a panic because the log was to be changed while it was taken. -/
def changeClash : String := "already borrowed: BorrowMutError"

/-- The text of a panic because the log was to be read while it was taken. -/
def readClash : String := "already mutably borrowed: BorrowError"

/-- Take the lines to change them. -/
def takeLines : Step σ ε (Array ConsoleLine) := fun state log =>
  if log.taken then .clashed changeClash else .done log.lines state { lines := #[], taken := true }

/-- Give lines back that were taken. -/
def giveLines (lines : Array ConsoleLine) : Step σ ε Unit := fun state _ =>
  .done () state { lines, taken := false }

/-- Read the lines. -/
def readLines : Step σ ε (Array ConsoleLine) := fun state log =>
  if log.taken then .clashed readClash else .done log.lines state log

/-- A change of the state ends with what it finds. -/
theorem run_change (step : σ → α × σ) (state : σ) (log : Log) :
    (change step : Step σ ε α) state log = .done (step state).1 (step state).2 log := rfl

/-- The lines of a free log are read. -/
theorem run_readLines (state : σ) (lines : Array ConsoleLine) :
    (readLines : Step σ ε (Array ConsoleLine)) state { lines } =
      .done lines state { lines } := rfl

/-- Two steps yield a value if the first one does and the other one goes on to it. -/
theorem bind_eq_done {step : Step σ ε α} {next : α → Step σ ε β} {state after : σ} {log last : Log}
    {value : β} : (step >>= next) state log = .done value after last ↔
      ∃ found middle between, step state log = .done found middle between ∧
        next found middle between = .done value after last := by
  change step.bind next state log = _ ↔ _
  rw [Step.bind]
  cases step state log with
  | done found middle between =>
    constructor
    · exact fun ended => ⟨found, middle, between, rfl, ended⟩
    · rintro ⟨_, _, _, ⟨⟩, ended⟩
      exact ended
  | stopped _ _ _ => simp
  | clashed _ => simp

/-- Two steps are cut short if the first one is, or the other one after it. -/
theorem bind_eq_stopped {step : Step σ ε α} {next : α → Step σ ε β} {state after : σ}
    {log last : Log} {cause : ε} : (step >>= next) state log = .stopped cause after last ↔
      step state log = .stopped cause after last ∨
      ∃ found middle between, step state log = .done found middle between ∧
        next found middle between = .stopped cause after last := by
  change step.bind next state log = _ ↔ _
  rw [Step.bind]
  cases step state log with
  | done found middle between =>
    constructor
    · exact fun ended => .inr ⟨found, middle, between, rfl, ended⟩
    · rintro (⟨⟨⟩⟩ | ⟨_, _, _, ⟨⟩, ended⟩)
      exact ended
  | stopped _ _ _ => simp
  | clashed _ => simp

/-- Two steps go on from where the first one ended with a value. -/
theorem bind_of_done {step : Step σ ε α} {next : α → Step σ ε β} {state middle : σ}
    {log between : Log} {found : α} (ended : step state log = .done found middle between) :
    (step >>= next) state log = next found middle between := by
  change step.bind next state log = _
  rw [Step.bind, ended]

/-- Two steps end where the first one was cut short. -/
theorem bind_of_stopped {step : Step σ ε α} {next : α → Step σ ε β} {state after : σ}
    {log last : Log} {cause : ε} (ended : step state log = .stopped cause after last) :
    (step >>= next) state log = .stopped cause after last := by
  change step.bind next state log = _
  rw [Step.bind, ended]

/-- Two steps clash where the first one does. -/
theorem bind_of_clashed {step : Step σ ε α} {next : α → Step σ ε β} {state : σ} {log : Log}
    {message : String} (ended : step state log = .clashed message) :
    (step >>= next) state log = .clashed message := by
  change step.bind next state log = _
  rw [Step.bind, ended]

/-- A step that yields a value has yielded it. -/
theorem attempt_of_done {step : Step σ ε α} {state after : σ} {log last : Log} {value : α}
    (ended : step state log = .done value after last) :
    (step.attempt : Step σ ε' (Except ε α)) state log = .done (.ok value) after last := by
  rw [attempt, ended]

/-- A step that is cut short has yielded why. -/
theorem attempt_of_stopped {step : Step σ ε α} {state after : σ} {log last : Log} {cause : ε}
    (ended : step state log = .stopped cause after last) :
    (step.attempt : Step σ ε' (Except ε α)) state log = .done (.error cause) after last := by
  rw [attempt, ended]

end Step

end Scratchpad.Script
