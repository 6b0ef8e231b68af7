import Scratchpad.Script.Memory
import Scratchpad.Script.Step

/-!
# Parts of evaluations

What the evaluation of a script is divided into, and what carries the parts out. A machine does so
by steps on the memory of the run; the methods of the console are called by it like any function.
-/
namespace Scratchpad.Script

open Scratchpad.Text (Units)

/-- Why the evaluation of a script was cut short. -/
inductive Abrupt where
  /-- Something was thrown, which a handler may catch. -/
  | thrown (value : Value)
  /-- The budget is used up. -/
  | interrupted
  /-- A function waits for something that does not happen any more. -/
  | suspended
deriving Inhabited

/-- What the evaluation of an expression or a statement depends on. -/
structure Context where
  /-- Where names are found. -/
  environment : EnvironmentRef
  /-- Where the values of `this` and the like are found. -/
  activation : EnvironmentRef
  strict : Bool
  /-- Whether the values of statements are kept as the value of the script. -/
  keeps : Bool := false
  /-- The labels of the statement. -/
  labels : List Units := []
deriving Inhabited

/-- How a statement ended. -/
inductive Flow where
  | normal
  | break (label : Option Units)
  | continue (label : Option Units)
  | return (value : Value)
deriving Inhabited

/-- A part of an evaluation that a machine carries out, by what it yields. -/
inductive Part : Type → Type where
  /-- Call a function with a value of `this` and arguments. -/
  | call (callee this : Value) (arguments : Array Value) : Part Value
  /-- Make an object by a constructor with arguments, for a constructor that asked for it. -/
  | construct (constructor : Ref) (arguments : Array Value) (newTarget : Ref) : Part Value
  | expression (context : Context) (expression : Expr) : Part Value
  | statement (context : Context) (statement : Stmt) : Part Flow
  /-- The value of an expression with the object that it is a member of; none if a chain ended at a
  missing value. -/
  | reference (context : Context) (expression : Expr) : Part (Option (Value × Value))
  /-- Give a value to a target; the flag says whether the names in it are new. -/
  | assign (context : Context) (new : Bool) (target : Expr) (value : Value) : Part Unit
  /-- Write a line of a level to the console. -/
  | print (level : Level) (arguments : Array Value) : Part Value

/-- What carries out the parts of a script. -/
class Machine where
  /-- How deeply evaluations may nest. -/
  depth : Nat
  /-- What the machine does for a part. -/
  step : {α : Type} → Part α → Step Memory Abrupt α

end Scratchpad.Script
