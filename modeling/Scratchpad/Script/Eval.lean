import Scratchpad.Script.Parts

/-!
# Evaluation

An evaluation on a machine is put together from steps that look at memory, change it, throw and
catch, and from the parts that it hands on to the machine. None of these but the parts touches the
log of the console: this belongs to the type, so it holds of every program that is put together from
them.
-/
namespace Scratchpad.Script

/-- How a log comes about from another one if only the machine writes to it; none if the log was
asked for while it was taken. -/
inductive Leads [Machine] : Log → Option Log → Prop where
  | still (log : Log) : Leads log (some log)
  | part {α : Type} (part : Part α) (memory : Memory) (log : Log) :
      Leads log (Machine.step part memory log).log?
  | trans {first middle : Log} {last : Option Log} : Leads first (some middle) →
      Leads middle last → Leads first last

/-- A step of an evaluation on a machine. -/
structure Eval [Machine] (α : Type) where
  /-- What the step does. -/
  run : Step Memory Abrupt α
  /-- Only the parts that the step hands on to the machine change the log. -/
  leads : ∀ memory log, Leads log (run memory log).log?

namespace Eval

variable [Machine] {α β : Type}

/-- The step that does nothing. -/
@[always_inline, inline]
protected def pure (value : α) : Eval α where
  run := .pure value
  leads _ log := .still log

/-- One step after another. -/
@[always_inline, inline]
protected def bind (step : Eval α) (next : α → Eval β) : Eval β where
  run := step.run.bind fun value => (next value).run
  leads memory log := by
    have first := step.leads memory log
    rw [Step.bind]
    cases ended : step.run memory log with
    | done value memory' log' =>
      rw [ended] at first
      exact .trans first ((next value).leads memory' log')
    | stopped abrupt memory' log' => rwa [ended] at first
    | clashed message => rwa [ended] at first

instance : Monad Eval where
  pure := Eval.pure
  bind := Eval.bind

instance [Inhabited α] : Inhabited (Eval α) := ⟨Eval.pure default⟩

@[simp]
theorem run_bind (step : Eval α) (next : α → Eval β) :
    (step >>= next).run = step.run >>= fun value => (next value).run := rfl

/-- Change memory and find something. -/
@[always_inline, inline]
def change (step : Memory → α × Memory) : Eval α where
  run := .change step
  leads _ log := .still log

/-- Look at memory. -/
@[always_inline, inline]
def view (look : Memory → α) : Eval α := change fun memory => (look memory, memory)

/-- Change memory. -/
@[always_inline, inline]
def update (change : Memory → Memory) : Eval Unit := .change fun memory => ((), change memory)

/-- Cut the evaluation short. -/
def stop (abrupt : Abrupt) : Eval α where
  run := .stop abrupt
  leads _ log := .still log

/-- Do a step and go on however it ends. -/
@[inline]
def attempt (step : Eval α) : Eval (Except Abrupt α) where
  run := step.run.attempt
  leads memory log := by
    have first := step.leads memory log
    rw [Step.attempt]
    cases ended : step.run memory log <;> rwa [ended] at first

/-- Hand a part on to the machine. -/
@[always_inline, inline]
def hand (part : Part α) : Eval α where
  run := Machine.step part
  leads := .part part

/-- Throw a value. -/
def throwValue (value : Value) : Eval α := stop (.thrown value)

/-- Do a step, and another one if it throws. -/
@[inline]
def orElseThrown (step : Eval α) (handler : Value → Eval α) : Eval α := do
  match ← attempt step with
  | .ok value => return value
  | .error (.thrown value) => handler value
  | .error abrupt => stop abrupt

end Eval

end Scratchpad.Script
