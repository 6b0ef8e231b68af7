import Scratchpad.Script.Step

/-!
# Engines

A snippet is run by an engine that somebody else has built. What is known of it is what it can be
asked for, and what it promises: that the log of the console is changed only where a script calls a
method of the console, and that such a call runs the method. The values of scripts, the state of the
engine and the faults for which it does not do what it is asked for are its own.
-/
namespace Scratchpad.Script

/-- What a call of a method of the console does, by the level of the method and the arguments. -/
abbrev Methods (σ ν ε : Type) : Type := Level → List ν → Step σ ε Unit

/-- How a log comes about from another one if only calls of methods change it; none if the log was
asked for while it was taken. -/
inductive Led {σ ν ε : Type} (methods : Methods σ ν ε) : Log → Option Log → Prop where
  | still (log : Log) : Led methods log (some log)
  | call (level : Level) (arguments : List ν) (state : σ) (log : Log) :
      Led methods log (methods level arguments state log).log?
  | trans {first middle : Log} {last : Option Log} : Led methods first (some middle) →
      Led methods middle last → Led methods first last

/-- Something that an engine can be asked for. -/
structure Ask (σ ν ε α : Type) where
  /-- What the engine does, by what calls of the methods do. -/
  run : Methods σ ν ε → Step σ ε α
  /-- Only calls of the methods change the log. -/
  led : ∀ methods state log, Led methods log (run methods state log).log?

/-- What was caught when an engine did not do what it was asked for. -/
inductive Caught (ν : Type) where
  /-- A real error was thrown. -/
  | error (value : ν)
  /-- Any other value was thrown. -/
  | value (value : ν)
  /-- Nothing was thrown; the engine has a text for what went wrong. -/
  | fault (text : String)

/-- How a call ends in a script, by how the method ended that it ran; what becomes of a fault that
the script sees is given. -/
inductive Relays {σ ν ε : Type} (absent : ν → Bool) (raised : ε → σ → ε) :
    Outcome σ ε Unit → Outcome σ ε ν → Prop where
  | done {state after : σ} {log : Log} {value : ν} : absent value = true →
      Relays absent raised (.done () state log) (.done value after log)
  | stopped {fault : ε} {state after : σ} {log : Log} :
      Relays absent raised (.stopped fault state log) (.stopped (raised fault state) after log)
  | clashed (message : String) : Relays absent raised (.clashed message) (.clashed message)

/-- An engine for snippets. -/
structure Engine where
  /-- Everything that a script can change. -/
  State : Type
  Value : Type
  /-- Why the engine did not do what it was asked for. -/
  Fault : Type
  Runtime : Type
  /-- A runtime, or the text for why there is none. -/
  newRuntime : Except String Runtime
  /-- A realm with all standard objects, by the bytes that the heap may have and the number of times
  that the engine may look at the clock before it ends the script. -/
  openContext : Runtime → Option Nat → Option Nat → Except String State
  /-- How many calls of methods of the console the stack has room for, each inside a conversion of
  the one before. -/
  nesting : Nat
  /-- What the engine throws when there is no more room. -/
  overflow : State → Fault × State
  isUndefined : Value → Bool
  isNull : Value → Bool
  newObject : Ask State Value Fault Value
  /-- A function for scripts that runs the method of a level. -/
  newMethod : Level → Ask State Value Fault Value
  /-- Give an object a member. -/
  set : Value → String → Value → Ask State Value Fault Unit
  /-- The function that has a name everywhere. -/
  globalFunction : String → Ask State Value Fault Value
  call : Value → List Value → Ask State Value Fault Value
  /-- Call a function with texts. -/
  callTexts : Value → List String → Ask State Value Fault Value
  /-- A value as a function, if it is one. -/
  asFunction : Value → Ask State Value Fault Value
  /-- A value as a text, if it is a string of whole characters. -/
  asText : Value → Ask State Value Fault String
  /-- The text that a value converts to. -/
  coerced : Value → Ask State Value Fault String
  /-- What a fault was, which is done with it. -/
  caught : Fault → State → Caught Value × State
  /-- The message of an error, if there is one that can be read. -/
  message : Value → Ask State Value Fault (Option String)
  /-- A thrown value as it is listed for programmers. -/
  listed : Value → State → String
  /-- The text of a fault that nobody has caught. -/
  faultText : Fault → String
  /-- A fault of a method as the script sees it. -/
  raised : Fault → State → Fault
  /-- The level whose method a value runs. -/
  methodOf : Value → State → Option Level
  /-- What was thrown goes on to the script. -/
  raised_of_thrown : ∀ {fault : Fault} {state : State},
    (∀ text, (caught fault state).1 ≠ .fault text) → raised fault state = fault
  /-- A function that was made for a level runs the method of that level. -/
  methodOf_newMethod : ∀ {level : Level} {methods : Methods State Value Fault}
    {state after : State} {log last : Log} {value : Value},
    (newMethod level).run methods state log = .done value after last →
      methodOf value after = some level
  /-- A call of such a function runs the method and goes on as that ends, unless the engine refuses
  to call anything; which of the two it is does not depend on what the methods do. -/
  call_method : ∀ {level : Level} {function : Value} {state : State},
    methodOf function state = some level → ∀ arguments : List Value,
      (∃ fault after, ∀ (methods : Methods State Value Fault) (log : Log),
        (call function arguments).run methods state log = .stopped fault after log) ∨
      ∃ begun, ∀ (methods : Methods State Value Fault) (log : Log),
        Relays isUndefined raised (methods level arguments begun log)
          ((call function arguments).run methods state log)

end Scratchpad.Script
