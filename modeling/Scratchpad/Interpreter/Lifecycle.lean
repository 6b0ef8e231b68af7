import Scratchpad.Guest.Image
import Scratchpad.Interpreter.Stage

/-!
# The life of an embedded interpreter

An interpreter is loaded once, when it is first asked for; the outcome of that load is kept in a
cell and is final. The stage that callers see is written apart from the cell, so a load is three
steps: the stage turns to loading, the stage turns to the outcome, and the cell receives it.
-/
namespace Scratchpad

/-- What callers see of an interpreter, and what they can reach of it. -/
structure Lifecycle where
  stage : Stage := .uninitialized
  /-- The outcome of the load once it is kept: the program, or nothing after a failure. -/
  cell : Option (Option Guest.Program) := none
deriving Inhabited

namespace Lifecycle

/-- One step of a load. -/
inductive Step where
  /-- The load begins. -/
  | begin
  /-- The load came to an outcome. -/
  | settle (program : Option Guest.Program)
  /-- The outcome is kept. -/
  | store (program : Option Guest.Program)

/-- The stage after an outcome. -/
def outcomeStage : Option Guest.Program → Stage
  | some _ => .ready
  | none => .failed

/-- An interpreter after one step of its load. -/
def step (life : Lifecycle) : Step → Lifecycle
  | .begin => { life with stage := .loading }
  | .settle program => { life with stage := outcomeStage program }
  | .store program => { life with cell := some program }

/-- The steps of a load with an outcome. -/
def loadSteps (program : Option Guest.Program) : List Step :=
  [.begin, .settle program, .store program]

/-- An interpreter that was asked for: loaded if its cell is empty, and as it was otherwise. -/
def load (life : Lifecycle) (outcome : Option Guest.Program) : Lifecycle :=
  match life.cell with
  | some _ => life
  | none => (loadSteps outcome).foldl step life

/-- An interpreter whose load is over. -/
def loaded (outcome : Option Guest.Program) : Lifecycle where
  stage := outcomeStage outcome
  cell := some outcome

/-- Asking for an interpreter for the first time takes it through its whole load. -/
@[simp]
theorem load_initial (outcome : Option Guest.Program) :
    Lifecycle.load {} outcome = loaded outcome := rfl

/-- Asking again changes nothing. -/
@[simp]
theorem load_loaded (first second : Option Guest.Program) :
    (loaded first).load second = loaded first := rfl

/-- The program that a run can reach. -/
def program? (life : Lifecycle) : Option Guest.Program := life.cell.join

end Lifecycle

end Scratchpad
