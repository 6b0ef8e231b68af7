import Scratchpad.Script.Eval

/-!
# What evaluations are made of

An evaluation hands parts on to its machine, makes objects and environments, throws faults, and
takes its turns and its bytes from the budgets of the run.
-/
namespace Scratchpad.Script

open Scratchpad.Text (Units)

/-! ## Parts -/

namespace Machine

variable [Machine]

/-- Call a function with a value of `this` and arguments. -/
@[always_inline, inline]
def call (callee this : Value) (arguments : Array Value) : Eval Value :=
  .hand (.call callee this arguments)

/-- Make an object by a constructor with arguments, for a constructor that asked for it. -/
@[always_inline, inline]
def construct (constructor : Ref) (arguments : Array Value) (newTarget : Ref) : Eval Value :=
  .hand (.construct constructor arguments newTarget)

/-- The value of an expression. -/
@[always_inline, inline]
def expression (context : Context) (expression : Expr) : Eval Value :=
  .hand (.expression context expression)

/-- Run a statement. -/
@[always_inline, inline]
def statement (context : Context) (statement : Stmt) : Eval Flow :=
  .hand (.statement context statement)

/-- The value of an expression with the object that it is a member of; none if a chain ended at a
missing value. -/
@[always_inline, inline]
def reference (context : Context) (expression : Expr) : Eval (Option (Value × Value)) :=
  .hand (.reference context expression)

/-- Give a value to a target; the flag says whether the names in it are new. -/
@[always_inline, inline]
def assign (context : Context) (new : Bool) (target : Expr) (value : Value) : Eval Unit :=
  .hand (.assign context new target value)

/-- Write a line of a level to the console. -/
@[always_inline, inline]
def print (level : Level) (arguments : Array Value) : Eval Value := .hand (.print level arguments)

end Machine

/-! ## Allocation and faults -/

/-- Memory with one more object. -/
def Memory.place (memory : Memory) (object : Object) : Ref × Memory :=
  (⟨memory.objects.size⟩, { memory with objects := memory.objects.push object })

/-- Make an object, whatever it takes. -/
def place [Machine] (object : Object) : Eval Ref := .change (·.place object)

/-- An error with a message. -/
def errorObject (kind : ErrorKind) (message : Value) : Object where
  prototype := some (Intrinsic.prototype (.error kind)).ref
  properties := #[(.message, .quiet message), (.ofString "stack", .quiet (.text .empty))]
  nature := .error

/-- How a fault cuts an evaluation short: it is thrown as an error, unless the time is over. -/
def Memory.failing (memory : Memory) (fault : Fault) : Abrupt × Memory :=
  match fault with
  | .engine .interrupted => (.interrupted, memory)
  | _ =>
    let (error, memory) := memory.place (errorObject fault.kind (.ofString fault.message))
    (.thrown (.object error), memory)

/-- Throw a fault. -/
def raise [Machine] {α : Type} (fault : Fault) : Eval α := do .stop (← .change (·.failing fault))

/-- Throw because a value is not what an operation needs. -/
def raiseType [Machine] {α : Type} (fault : TypeFault) : Eval α := raise (.type fault)

/-- Throw because a value is out of range. -/
def raiseRange [Machine] {α : Type} (fault : RangeFault) : Eval α := raise (.range fault)

/-- The number of bytes that the standard objects take. -/
def standardBytes : Nat := 200000

/-- Memory with bytes used, if there are as many; what is not used any more is found by a census. -/
def Memory.charge? (memory : Memory) (bytes : Nat) : Option Memory :=
  match memory.limit with
  | none => some memory
  | some limit =>
    if memory.used + bytes ≤ limit then some { memory with used := memory.used + bytes }
    else
      let live := standardBytes + memory.census
      if live + bytes ≤ limit then some { memory with used := live + bytes } else none

/-- Use bytes of memory. -/
def charge [Machine] (bytes : Nat) : Eval Unit := do
  let fits ← Eval.change fun memory =>
    match memory.charge? bytes with
    | some charged => (true, charged)
    | none => (false, memory)
  if fits then return () else raise (.engine .outOfMemory)

/-- Make an object. -/
def allocate [Machine] (object : Object) : Eval Ref := do
  charge Memory.objectSize
  place object

/-- Make an array. -/
def makeArray [Machine] (items : Array Value) : Eval Value := do
  charge (items.size * Memory.slotSize)
  return .object (← allocate (.ofItems items))

/-- Make an array. -/
def makeList [Machine] (items : List Value) : Eval Value := makeArray items.toArray

/-- Make an object with nothing in it. -/
def makePlain [Machine] : Eval Ref :=
  allocate { prototype := some (Intrinsic.prototype .object).ref }

/-- A string as a value. -/
def makeText [Machine] (text : Units) : Eval Value := do
  charge text.size
  return .text text

/-- Take one turn from the budget. -/
def tick [Machine] : Eval Unit := do
  let left ← Eval.change fun memory =>
    match memory with
    | { ticks := 0, .. } => (false, memory)
    | { ticks := left + 1, .. } => (true, { memory with ticks := left })
  if left then return () else .stop .interrupted

/-- A turn that is left is taken, and nothing else happens. -/
theorem run_tick [Machine] {memory : Memory} {ticks : Nat} (left : memory.ticks = ticks + 1)
    (log : Log) : tick.run memory log = .done () { memory with ticks } log := by
  cases memory
  subst left
  rfl

/-- Without a turn that is left the evaluation ends. -/
theorem run_tick_none [Machine] {memory : Memory} (none : memory.ticks = 0) (log : Log) :
    tick.run memory log = .stopped .interrupted memory log := by
  cases memory
  subst none
  rfl

/-- Make an environment. -/
def enter [Machine] (environment : Environment) : Eval EnvironmentRef :=
  .change fun memory =>
    (⟨memory.environments.size⟩,
      { memory with environments := memory.environments.push environment })

/-- The number of environments, and how often one was kept for later. -/
def mark [Machine] : Eval (Nat × Nat) :=
  .view fun memory => (memory.environments.size, memory.captures)

/-- Forget the environments made since a mark, if none of them was kept for later. -/
def leave [Machine] (mark : Nat × Nat) : Eval Unit :=
  .update fun memory =>
    if memory.captures = mark.2 then
      { memory with environments := memory.environments.shrink mark.1 }
    else memory

/-- Note that the environments made so far are kept for later. -/
def capture [Machine] : Eval Unit :=
  .update fun memory => { memory with captures := memory.captures + 1 }

/-- The number of turns of a loop that nothing else ends. -/
def unlimited : Nat := Nat.pow 2 62

/-- Repeat a step until it finds something, at most `fuel` times. -/
def repeatFrom [Machine] {α σ : Type} (step : σ → Eval (α ⊕ σ)) : Nat → σ → Eval α
  | 0, _ => .stop .interrupted
  | fuel + 1, state => do
    match ← step state with
    | .inl found => return found
    | .inr state => repeatFrom step fuel state

/-- Repeat a step until it finds something; every turn is taken from the budget. -/
@[inline]
def repeatUntil [Machine] {α σ : Type} (step : σ → Eval (α ⊕ σ)) (state : σ) : Eval α :=
  repeatFrom (fun state => do tick; step state) unlimited state

end Scratchpad.Script
