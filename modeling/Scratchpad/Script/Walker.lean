import Scratchpad.Script.Engine
import Scratchpad.Script.Library.Natives
import Scratchpad.Script.Statements

/-!
# Machines that walk

The machine that evaluates whole scripts by walking through their syntax: a machine of some depth
hands the parts of what it evaluates on to a machine of less depth, and one without depth refuses,
so that evaluation always ends; a script that nests more calls than that learns that the stack is
full. The methods of the console are not its own: it calls them with the memory as it is, and with
the depth that is left.
-/
namespace Scratchpad.Script

/-- Call a value. -/
def callFunction [Machine] (callee this : Value) (arguments : Array Value) : Eval Value := do
  tick
  match callee with
  | .object ref =>
    match (← Eval.view (·.object ref)).nature with
    | .closure closure => callClosure ref closure this arguments
    | .native native => runNative native { this, arguments }
    | .bound target this given => Machine.call (.object target) this (given ++ arguments)
    | _ => raiseType .notFunction
  | _ => raiseType .notFunction

/-- Make an object by a constructor, for a constructor that asked for it. -/
def constructObjectBy [Machine] (constructor : Ref) (arguments : Array Value) (newTarget : Ref) :
    Eval Value := do
  tick
  match (← Eval.view (·.object constructor)).nature with
  | .closure closure => constructClosure constructor closure arguments newTarget
  | .native native => runNative native { this := .undefined, arguments, newTarget := some newTarget }
  | .bound target _ given =>
    let newTarget := if newTarget = constructor then target else newTarget
    Machine.construct target (given ++ arguments) newTarget
  | _ => raiseType .notConstructor

namespace Walker

/-- The state of an engine that walks. -/
structure State where
  memory : Memory
  /-- The depth that is left. -/
  room : Nat

/-- Why an engine that walks does not do what it is asked for. -/
inductive Fault where
  /-- The evaluation of the script was cut short. -/
  | cut (abrupt : Abrupt)
  /-- A value does not leave the engine. -/
  | kept (fault : TypeFault)

/-- How a fault cuts a script short that called a method: a value that does not leave the engine
throws an error. -/
def Fault.abrupt (memory : Memory) : Fault → Abrupt × Memory
  | .cut abrupt => (abrupt, memory)
  | .kept fault => memory.failing (.type fault)

end Walker

namespace Machine

/-- The machine that refuses everything, as the stack is full. -/
@[reducible]
def exhausted : Machine where
  depth := 0
  step _ memory log :=
    let (abrupt, memory) := memory.failing (.range .stackOverflow)
    .stopped abrupt memory log

/-- Call the method of a level, with a depth that is left. -/
def callMethod (methods : Methods Walker.State Value Walker.Fault) (room : Nat) (level : Level)
    (arguments : Array Value) : Step Memory Abrupt Value := fun memory log =>
  match methods level arguments.toList { memory, room } log with
  | .done () after log => .done .undefined after.memory log
  | .stopped fault after log =>
    let (abrupt, memory) := fault.abrupt after.memory
    .stopped abrupt memory log
  | .clashed message => .clashed message

/-- What a machine does for a part by handing the parts of it on to another one. -/
def stepAtop (methods : Methods Walker.State Value Walker.Fault) [Machine] {α : Type} :
    Part α → Step Memory Abrupt α
  | .call callee this arguments => (callFunction callee this arguments).run
  | .construct constructor arguments newTarget =>
    (constructObjectBy constructor arguments newTarget).run
  | .expression context expression => (expressionValue context expression).run
  | .statement context statement => (statementFlow context statement).run
  | .reference context expression => (referenceOf context expression).run
  | .assign context new target value => (assignTarget context new target value).run
  | .print level arguments => callMethod methods Machine.depth level arguments

/-- The machine that hands parts on to another one, which is made when it is needed. -/
@[reducible, noinline]
def atop (methods : Methods Walker.State Value Walker.Fault) (depth : Nat)
    (inner : Unit → Machine) : Machine where
  depth := depth + 1
  step part memory log :=
    let _ : Machine := inner ()
    stepAtop methods part memory log

/-- The machine of a depth. -/
@[reducible]
def ofDepth (methods : Methods Walker.State Value Walker.Fault) : Nat → Machine
  | 0 => exhausted
  | depth + 1 => atop methods depth fun _ => ofDepth methods depth

end Machine

end Scratchpad.Script
