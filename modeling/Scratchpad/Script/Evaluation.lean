import Scratchpad.Script.Handover
import Scratchpad.Script.Realm
import Scratchpad.Script.Snippet
import Scratchpad.Script.Walker

/-!
# The engine that walks

An engine put together from machines that walk through the syntax of a script. It stands for the
engine that is shipped, which is not at hand here: it has no regular expressions, dates, generators,
proxies and typed arrays, its argument objects do not follow the parameters, and its errors have no
stack. Its budgets are its own: what it counts are turns in place of looks at the clock, and bytes
by its own measure of what an object takes. What is proved of snippets is proved of every engine,
and this one serves to run them.
-/
namespace Scratchpad.Script

/-! ## Budgets -/

/-- The least number of turns after which a time limit is looked at. -/
def leastTicks : Nat := 10000

/-- The most turns that a time limit leaves. -/
def mostTicks : Nat := 20000000

/-- The number of nanoseconds that a turn takes. -/
def tickNanos : Nat := 50

/-- The turns that a time limit leaves. -/
def ticksWithin (limit : TimeSpan) : Nat :=
  max leastTicks (min mostTicks (limit.totalNanos / tickNanos))

/-- The bytes that may be used; none is no limit. -/
def memoryLimit : Option Nat → Option Nat
  | some 0 | none => none
  | some limit => some limit

/-- Whether the standard objects fit into the memory that there is. -/
def fitsRealm (maxMemory : Option Nat) : Bool :=
  match memoryLimit maxMemory with
  | some limit => standardBytes ≤ limit
  | none => true

/-- How deeply evaluations may nest. -/
def maxNesting : Nat := 12000

/-- Memory before a snippet runs. -/
def freshMemory (maxMemory turns : Option Nat) : Memory :=
  { Realm.memory (turns.getD unlimited) (memoryLimit maxMemory) with used := standardBytes }

/-- The start at the beginning of the clock. -/
def Start.first (settings : ScriptSettings) : Start where
  now := ⟨0, 0⟩
  turns := (settings.timeout.map ticksWithin).getD unlimited

namespace Walker

/-! ## What can be asked for -/

variable (methods : Methods State Value Fault)

/-- What is true of the parts of a machine is true of all that is put together from them. -/
theorem led_of_leads [Machine] (parts : ∀ {α : Type} (part : Part α) (memory : Memory) (log : Log),
    Led methods log (Machine.step part memory log).log?) {log : Log} {last : Option Log}
    (leads : Leads log last) : Led methods log last := by
  induction leads with
  | still log => exact .still log
  | part part memory log => exact parts part memory log
  | trans _ _ first second => exact .trans first second

/-- The log after a call of a method is the one that the method leaves. -/
theorem log?_callMethod (room : Nat) (level : Level) (arguments : Array Value) (memory : Memory)
    (log : Log) : (Machine.callMethod methods room level arguments memory log).log? =
      (methods level arguments.toList { memory, room } log).log? := by
  rw [Machine.callMethod]
  cases methods level arguments.toList { memory, room } log <;> rfl

/-- Only calls of the methods change the log while a machine carries out a part. -/
theorem led_step (depth : Nat) {α : Type} (part : Part α) (memory : Memory) (log : Log) :
    Led methods log ((Machine.ofDepth methods depth).step part memory log).log? := by
  induction depth generalizing α memory log with
  | zero => exact .still log
  | succ depth ih =>
    let _ : Machine := .ofDepth methods depth
    cases part with
    | print level arguments =>
      change Led methods log
        (Machine.callMethod methods Machine.depth level arguments memory log).log?
      rw [log?_callMethod]
      exact .call level arguments.toList _ log
    | call callee this arguments =>
      exact led_of_leads methods ih ((callFunction callee this arguments).leads memory log)
    | construct constructor arguments newTarget =>
      exact led_of_leads methods ih
        ((constructObjectBy constructor arguments newTarget).leads memory log)
    | expression context expression =>
      exact led_of_leads methods ih ((expressionValue context expression).leads memory log)
    | statement context statement =>
      exact led_of_leads methods ih ((statementFlow context statement).leads memory log)
    | reference context expression =>
      exact led_of_leads methods ih ((referenceOf context expression).leads memory log)
    | assign context new target value =>
      exact led_of_leads methods ih ((assignTarget context new target value).leads memory log)

/-- How an evaluation ended, as an answer of the engine. -/
def answer {α : Type} (room : Nat) :
    Outcome Memory Abrupt (Except TypeFault α) → Outcome State Fault α
  | .done (.ok value) memory log => .done value { memory, room } log
  | .done (.error fault) memory log => .stopped (.kept fault) { memory, room } log
  | .stopped abrupt memory log => .stopped (.cut abrupt) { memory, room } log
  | .clashed message => .clashed message

/-- Ask for an evaluation whose value may stay in the engine. -/
def askFor {α : Type} (eval : ∀ [Machine], Eval (Except TypeFault α)) :
    Ask State Value Fault α where
  run methods state log :=
    let _ : Machine := .ofDepth methods state.room
    answer state.room (eval.run state.memory log)
  led methods state log := by
    let _ : Machine := .ofDepth methods state.room
    have led := led_of_leads methods (led_step methods state.room) (eval.leads state.memory log)
    change Led methods log (answer state.room (eval.run state.memory log)).log?
    cases ended : eval.run state.memory log with
    | done found memory last =>
      rw [ended] at led
      cases found <;> exact led
    | stopped abrupt memory last => rwa [ended] at led
    | clashed message => rwa [ended] at led

/-- Ask for an evaluation. -/
def ask {α : Type} (eval : ∀ [Machine], Eval α) : Ask State Value Fault α :=
  askFor do return .ok (← eval)

/-- The function object that runs the method of a level. -/
def consoleMethod (level : Level) : Object where
  prototype := some (Intrinsic.prototype .function).ref
  properties := functionProperties 0 .empty
  nature := .native (.console level)

/-- The level whose method a value runs. -/
def methodOf (value : Value) (state : State) : Option Level :=
  match value with
  | .object ref =>
    match (state.memory.object ref).nature with
    | .native (.console level) => some level
    | _ => none
  | _ => none

/-- Give an object a member. -/
def setMember [Machine] (holder : Value) (name : String) (member : Value) : Eval Unit :=
  match holder with
  | .object ref => updateObject ref (·.put (.ofString name) (.plain member))
  | _ => raiseType .notObject

/-- What a fault was: the end of the budget is an error like any other outside. -/
def caught (fault : Fault) (state : State) : Caught Value × State :=
  match fault with
  | .cut (.thrown value) =>
    if isRealError state.memory value then (.error value, state) else (.value value, state)
  | .cut .interrupted | .cut .suspended =>
    let fault : Script.Fault := .engine .interrupted
    let (error, memory) := state.memory.place (errorObject fault.kind (.ofString fault.message))
    (.error (.object error), { state with memory })
  | .kept fault => (.fault fault.message, state)

/-- A fault as the script sees it whose method ended with it. -/
def raised (fault : Fault) (state : State) : Fault := .cut (fault.abrupt state.memory).1

/-- What was thrown goes on to the script. -/
theorem raised_of_thrown {fault : Fault} {state : State}
    (thrown : ∀ text, (caught fault state).1 ≠ .fault text) : raised fault state = fault := by
  cases fault with
  | cut abrupt => rfl
  | kept fault => exact absurd rfl (thrown fault.message)

/-- What an evaluation yields is what is asked for. -/
theorem ask_eq_done {α : Type} {eval : ∀ [Machine], Eval α} {state after : State}
    {log last : Log} {value : α} (made : (ask eval).run methods state log = .done value after last) :
    @Eval.run (.ofDepth methods state.room) _ (@eval (.ofDepth methods state.room)) state.memory
      log = .done value after.memory last := by
  let _ : Machine := .ofDepth methods state.room
  change answer state.room ((eval >>= fun value => pure (.ok value) :
    Eval (Except TypeFault α)).run state.memory log) = _ at made
  rw [Eval.run_bind] at made
  cases ended : eval.run state.memory log with
  | done found memory between =>
    rw [Step.bind_of_done ended] at made
    cases made
    rfl
  | stopped abrupt memory between =>
    rw [Step.bind_of_stopped ended] at made
    cases made
  | clashed message =>
    rw [Step.bind_of_clashed ended] at made
    cases made

/-- Using bytes leaves the objects as they are. -/
theorem objects_charge {memory charged : Memory} {bytes : Nat}
    (fits : memory.charge? bytes = some charged) : charged.objects = memory.objects := by
  rw [Memory.charge?] at fits
  split at fits
  · cases fits
    rfl
  · dsimp only at fits
    split at fits
    · cases fits
      rfl
    · split at fits <;> cases fits
      rfl

/-- Using bytes leaves the objects as they are, if there are as many. -/
theorem objects_run_charge [Machine] {memory after : Memory} {log last : Log} {bytes : Nat}
    (charged : (charge bytes).run memory log = .done () after last) :
    after.objects = memory.objects := by
  rw [charge, Eval.run_bind, Step.bind_eq_done] at charged
  obtain ⟨fits, middle, between, found, ended⟩ := charged
  simp only [Eval.change, Step.change] at found
  cases room : memory.charge? bytes with
  | none =>
    rw [room] at found
    cases found
    cases ended
  | some used =>
    rw [room] at found
    cases found
    cases ended
    exact objects_charge room

/-- An object that was made is found where it was made. -/
theorem object_run_allocate [Machine] {object : Object} {memory after : Memory} {log last : Log}
    {ref : Ref} (made : (allocate object).run memory log = .done ref after last) :
    after.object ref = object := by
  rw [allocate, Eval.run_bind, Step.bind_eq_done] at made
  obtain ⟨_, middle, between, charged, placed⟩ := made
  have same := objects_run_charge charged
  cases placed
  rw [Memory.object]
  exact congrArg (Option.getD · default) (Array.getElem?_push_size ..)

/-- Make a function for a level. -/
def newMethod (level : Level) : Ask State Value Fault Value :=
  ask do return .object (← allocate (consoleMethod level))

/-- A function that was made for a level runs the method of that level. -/
theorem methodOf_newMethod {level : Level} {state after : State} {log last : Log} {value : Value}
    (made : (newMethod level).run methods state log = .done value after last) :
    methodOf value after = some level := by
  have ran := ask_eq_done methods made
  let _ : Machine := .ofDepth methods state.room
  rw [Eval.run_bind, Step.bind_eq_done] at ran
  obtain ⟨ref, _, _, placed, ended⟩ := ran
  cases ended
  have found := object_run_allocate placed
  rw [methodOf, found]
  rfl

/-- Call a function with values. -/
def call (function : Value) (arguments : List Value) : Ask State Value Fault Value :=
  ask (Machine.call function .undefined arguments.toArray)

/-- How the evaluation of a call ends is how the call ends. -/
theorem run_call (function : Value) (arguments : List Value) (state : State) (log : Log) :
    (call function arguments).run methods state log =
      match (Machine.ofDepth methods state.room).step
        (.call function .undefined arguments.toArray) state.memory log with
      | .done value memory log => .done value { state with memory } log
      | .stopped abrupt memory log => .stopped (.cut abrupt) { state with memory } log
      | .clashed message => .clashed message := by
  let _ : Machine := .ofDepth methods state.room
  let part : Part Value := .call function .undefined arguments.toArray
  change answer state.room ((Eval.hand part >>= fun value => pure (.ok value) :
    Eval (Except TypeFault Value)).run state.memory log) = _
  rw [Eval.run_bind]
  have same : (Eval.hand part).run = Machine.step part := rfl
  cases ended : Machine.step part state.memory log with
  | done value memory last => rw [Step.bind_of_done (same ▸ ended)]; rfl
  | stopped abrupt memory last => rw [Step.bind_of_stopped (same ▸ ended)]; rfl
  | clashed message => rw [Step.bind_of_clashed (same ▸ ended)]; rfl

/-- A machine of some depth prints by calling the method, with the depth below its own. -/
theorem step_print (depth : Nat) (level : Level) (arguments : Array Value) (memory : Memory)
    (log : Log) : (Machine.ofDepth methods (depth + 1)).step (.print level arguments) memory log =
      Machine.callMethod methods depth level arguments memory log := by
  have below : (Machine.ofDepth methods depth).depth = depth := by cases depth <;> rfl
  change Machine.callMethod methods (Machine.ofDepth methods depth).depth level arguments memory
    log = _
  rw [below]

/-- Without a turn that is left a machine of some depth calls nothing. -/
theorem step_call_spent {memory : Memory} (spent : memory.ticks = 0) (depth : Nat) (ref : Ref)
    (this : Value) (arguments : Array Value) (log : Log) :
    (Machine.ofDepth methods (depth + 1)).step (.call (.object ref) this arguments) memory log =
      .stopped .interrupted memory log := by
  let _ : Machine := .ofDepth methods depth
  change (callFunction (.object ref) this arguments).run memory log = _
  rw [callFunction, Eval.run_bind, Step.bind_of_stopped (run_tick_none spent log)]

/-- With a turn that is left it has a machine of less depth print for the function of a level. -/
theorem step_call_print {level : Level} {ref : Ref} {memory : Memory} {ticks : Nat}
    (left : memory.ticks = ticks + 1)
    (method : (memory.object ref).nature = .native (.console level)) (depth : Nat) (this : Value)
    (arguments : Array Value) (log : Log) :
    (Machine.ofDepth methods (depth + 1)).step (.call (.object ref) this arguments) memory log =
      (Machine.ofDepth methods depth).step (.print level arguments) { memory with ticks } log := by
  let _ : Machine := .ofDepth methods depth
  change (callFunction (.object ref) this arguments).run memory log = _
  rw [callFunction, Eval.run_bind, Step.bind_of_done (run_tick left log), Eval.run_bind]
  let begun : Memory := { memory with ticks }
  have same : (begun.object ref).nature = .native (.console level) := method
  have looked : (Eval.view fun memory => memory.object ref).run begun log =
      .done (begun.object ref) begun log := rfl
  rw [Step.bind_of_done looked, same]
  rfl

/-- A call of the function of a level is refused, or calls the method of the level. -/
theorem step_call_method {level : Level} {ref : Ref} {memory : Memory} (depth : Nat)
    (method : (memory.object ref).nature = .native (.console level)) (this : Value)
    (arguments : Array Value) :
    (∃ abrupt after, ∀ methods log, (Machine.ofDepth methods depth).step
      (.call (.object ref) this arguments) memory log = .stopped abrupt after log) ∨
    ∃ room begun, ∀ methods log, (Machine.ofDepth methods depth).step
      (.call (.object ref) this arguments) memory log =
        Machine.callMethod methods room level arguments begun log := by
  cases depth with
  | zero => exact .inl ⟨_, _, fun _ _ => rfl⟩
  | succ depth =>
    cases left : memory.ticks with
    | zero =>
      exact .inl ⟨.interrupted, memory, fun methods log =>
        step_call_spent methods left depth ref this arguments log⟩
    | succ ticks =>
      have prints methods log := step_call_print methods left method depth this arguments log
      -- The function is one that the inner machine prints for, if that has any depth.
      cases depth with
      | zero => exact .inl ⟨_, _, prints⟩
      | succ depth =>
        exact .inr ⟨depth, { memory with ticks }, fun methods log =>
          (prints methods log).trans (step_print methods depth level arguments _ log)⟩

/-- A call of the function of a level runs the method and goes on as that ends, or is refused. -/
theorem call_method {level : Level} {function : Value} {state : State}
    (method : methodOf function state = some level) (arguments : List Value) :
    (∃ fault after, ∀ methods log,
      (call function arguments).run methods state log = .stopped fault after log) ∨
    ∃ begun, ∀ methods log, Relays (· matches .undefined) raised
      (methods level arguments begun log) ((call function arguments).run methods state log) := by
  obtain ⟨ref, rfl, native⟩ : ∃ ref, function = .object ref ∧
      (state.memory.object ref).nature = .native (.console level) := by
    unfold methodOf at method
    split at method
    · split at method
      · cases method
        exact ⟨_, rfl, by assumption⟩
      · cases method
    · cases method
  obtain ⟨abrupt, after, refused⟩ | ⟨room, begun, called⟩ :=
    step_call_method state.room native .undefined arguments.toArray
  · refine .inl ⟨.cut abrupt, { state with memory := after }, fun methods log => ?_⟩
    rw [run_call, refused]
  · refine .inr ⟨{ memory := begun, room }, fun methods log => ?_⟩
    rw [run_call, called, Machine.callMethod]
    cases methods level arguments { memory := begun, room } log with
    | done _ after last => exact .done rfl
    | stopped fault after last => exact .stopped
    | clashed message => exact .clashed message

/-- The engine that walks. -/
def engine : Engine where
  State := State
  Value := Value
  Fault := Fault
  Runtime := Unit
  newRuntime := .ok ()
  openContext _ maxMemory turns :=
    if fitsRealm maxMemory then .ok { memory := freshMemory maxMemory turns, room := maxNesting }
    else .error "Allocation failed while creating object"
  nesting := maxNesting
  overflow state :=
    let (abrupt, memory) := state.memory.failing (.range .stackOverflow)
    (.cut abrupt, { state with memory })
  isUndefined := (· matches .undefined)
  isNull := (· matches .null)
  newObject := ask do return .object (← makePlain)
  newMethod
  set holder name member := ask (setMember holder name member)
  globalFunction name := askFor do asFunction (← getOf Intrinsic.global.ref (.ofString name))
  call
  callTexts function texts := call function (texts.map .ofString)
  asFunction value := askFor (asFunction value)
  asText value := askFor (asText value)
  coerced value := askFor (coercedText value)
  caught
  message error := ask (errorMessage error)
  listed value state := "Exception generated by quickjs: " ++ listedValue state.memory value ++ "\n"
  faultText
    | .cut _ => "Exception generated by QuickJS"
    | .kept fault => fault.message
  raised
  methodOf
  raised_of_thrown
  methodOf_newMethod {_ methods _ _ _ _ _} := methodOf_newMethod methods
  call_method

end Walker

/-- Evaluate a snippet with the engine that walks, at the beginning of the clock. -/
def evaluate (settings : ScriptSettings) (code : String) : Evaluation :=
  Walker.engine.evaluate (.first settings) settings code

end Scratchpad.Script
