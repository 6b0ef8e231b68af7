import Scratchpad.Guest.Requests

/-!
# Guests that hear their answers

Every action of a guest is answered: a write, whether all of its bytes were kept, and a growth,
whether it was granted. What a guest does next may depend on all answers so far, and it need never
come to an end. Its host can stop it wherever it is: when its instructions are used up, by a check
of the epoch, or by giving it up. A run is one way in which this can happen, and its result is the
judgement on the state in which it was stopped. A program is such a guest, and minds the answers to
those growths alone that it insists on.
-/
namespace Scratchpad.Guest

/-- What a guest does next. -/
inductive NextStep where
  | act (action : Action)
  | ends (ending : Ending)
deriving DecidableEq, Repr

/-- What a guest does after answers, the first of them first. -/
abbrev Conduct := List Bool → NextStep

/-- A guest that hears its answers. -/
structure Reactive where
  /-- Pages of linear memory at the start, if it has a memory. -/
  memory : Option Nat
  /-- Table elements at the start, if it has a table. -/
  table : Option Nat
  /-- Whether it needs an import that nobody provides. -/
  unresolved : Bool
  entry : Entry
  /-- What it does when it is run with arguments. -/
  conduct : List String → Conduct

/-- The guest when its entry function is called, as that of a program that starts like it. -/
def Reactive.opened (guest : Reactive) (settings : InterpreterSettings) : Except Failure State :=
  Program.opened { guest with actions := fun _ => [], ending := .returns } settings

/-! ## Answers -/

/-- Everything that was written to a stream. -/
def State.written (state : State) : Stream → List UInt8
  | .output => state.output.reverse.flatten
  | .error => state.error.reverse.flatten

/-- The answer to an action: of a write, whether none of its bytes lies beyond the ceiling. -/
def State.grants (state : State) (settings : InterpreterSettings) : Action → Bool
  | .write stream bytes =>
    bytes.isEmpty || (state.written stream).length + bytes.length ≤ settings.maxOutput
  | .growMemory pages _ => (state.growMemory pages).1
  | .growTable elements _ => (state.growTable elements).1

/-- An action, what it asked of the limiter, and how it was answered. -/
structure Exchange where
  action : Action
  request : Option Growth
  granted : Bool
deriving DecidableEq, Repr

/-- The exchange that an action begins. -/
def State.exchange (state : State) (settings : InterpreterSettings) (action : Action) :
    Exchange where
  action
  request := state.request? action
  granted := state.grants settings action

/-- A conduct leads from a state by exchanges, the first of them first, to another state. -/
inductive Conduct.Leads (conduct : Conduct) (settings : InterpreterSettings) (opened : State) :
    List Exchange → State → Prop where
  | start : Leads conduct settings opened [] opened
  | act {trace : List Exchange} {state : State} {action : Action}
      (led : Leads conduct settings opened trace state)
      (next : conduct (trace.map Exchange.granted) = .act action) :
      Leads conduct settings opened (trace ++ [state.exchange settings action])
        (state.perform action).2

/-! ## Runs -/

/-- How a run is stopped. -/
inductive Stop where
  /-- Its host sees an end. -/
  | seen (ended : End)
  /-- A check of the epoch interrupts the guest. -/
  | interrupted
deriving DecidableEq, Repr

/-- After exchanges, a guest can be stopped in a way. -/
inductive Conduct.Stops (conduct : Conduct) (settings : InterpreterSettings)
    (trace : List Exchange) : Stop → Prop where
  | itself {ending : Ending} (ends : conduct (trace.map Exchange.granted) = .ends ending) :
      Stops conduct settings trace (.seen (ending.seen settings))
  | spent (budgeted : settings.maxFuel.isSome = true) :
      Stops conduct settings trace (.seen .outOfFuel)
  | overdue : Stops conduct settings trace (.seen .outOfTime)
  | interrupted : Stops conduct settings trace .interrupted

/-- What is reported of a guest that was stopped in a state. -/
def Stop.result (settings : InterpreterSettings) (state : State) :
    Stop → Except Failure Captured
  | .seen ended => judge settings state ended
  | .interrupted =>
    .error (if state.limiter.tripped then refusedFailure settings else .timedOut settings.timeout)

/-- What the way in which a run is stopped calls for, if no request for growth comes into it. -/
def Stop.calledFor (settings : InterpreterSettings) (state : State) :
    Stop → Except Failure Captured
  | .seen .returned => .ok (state.capture settings 0)
  | .seen (.exited status) => .ok (state.capture settings status)
  | .seen .trapped => .error (.execution trapText)
  | .seen .outOfFuel => .error (.outOfFuel settings.maxFuel)
  | .seen .outOfTime | .interrupted => .error (.timedOut settings.timeout)

/-- Whether a refused request comes before what the way of a stop calls for. -/
def Stop.asksLimiter : Stop → Bool
  | .seen .returned | .seen .outOfTime => false
  | .seen (.exited _) | .seen .trapped | .seen .outOfFuel | .interrupted => true

/-- A stop is reported as it calls for, unless the limiter is asked and has refused a request. -/
theorem Stop.result_eq (settings : InterpreterSettings) (state : State) (stop : Stop) :
    stop.result settings state =
      if stop.asksLimiter = true ∧ state.limiter.tripped = true then
        .error (refusedFailure settings)
      else stop.calledFor settings state := by
  cases tripped : state.limiter.tripped with
  | false =>
    rw [if_neg (by simp)]
    cases stop with
    | interrupted => simp [result, calledFor, tripped]
    | seen ended => cases ended <;> simp [result, calledFor, judge, tripped]
  | true =>
    cases stop with
    | interrupted => simp [result, asksLimiter, tripped]
    | seen ended => cases ended <;> simp [result, calledFor, judge, asksLimiter, tripped]

/-- A run of a guest on a code, from its start to where it is stopped. -/
structure Reactive.Run (guest : Reactive) (settings : InterpreterSettings) (code : String) where
  opened : State
  trace : List Exchange
  last : State
  stop : Stop
  started : guest.opened settings = .ok opened
  led : (guest.conduct (arguments code)).Leads settings opened trace last
  stopped : (guest.conduct (arguments code)).Stops settings trace stop

namespace Reactive

/-- What a run reports. -/
def Run.result {guest : Reactive} {settings : InterpreterSettings} {code : String}
    (run : guest.Run settings code) : Except Failure Captured := run.stop.result settings run.last

/-- What a run asked of the limiter. -/
def Run.requests {guest : Reactive} {settings : InterpreterSettings} {code : String}
    (run : guest.Run settings code) : List Growth := run.trace.filterMap Exchange.request

/-- What can be reported of a guest on a code: that it cannot be started, that the time is over, or
what one of its runs reports. -/
inductive Reports (guest : Reactive) (settings : InterpreterSettings) (code : String) :
    Except Failure Captured → Prop where
  | unopened {failure : Failure} (failed : guest.opened settings = .error failure) :
      Reports guest settings code (.error failure)
  | overdue : Reports guest settings code (.error (.timedOut settings.timeout))
  | ran (run : guest.Run settings code) : Reports guest settings code run.result

end Reactive

/-! ## Programs as guests -/

/-- Whether a refusal of an action ends the run. -/
def Action.insists : Action → Bool
  | .write _ _ => false
  | .growMemory _ required | .growTable _ required => required

/-- Do actions and then end, unless one is refused that is insisted on. -/
def follow (ending : Ending) : List Action → Conduct
  | [], _ => .ends ending
  | action :: _, [] => .act action
  | action :: rest, granted :: answers =>
    if action.insists && !granted then .ends .traps else follow ending rest answers

/-- A program as a guest that hears its answers. -/
def Program.reactive (program : Program) : Reactive :=
  { program with conduct := fun arguments => follow program.ending (program.actions arguments) }

/-! ## What actions and exchanges leave -/

/-- The bytes that an action writes to a stream. -/
def Action.bytesTo (stream : Stream) : Action → List UInt8
  | .write written bytes => if written = stream then bytes else []
  | .growMemory _ _ | .growTable _ _ => []

/-- A guest that is about to begin has written nothing. -/
theorem State.written_opened {program : Program} {settings : InterpreterSettings} {opened : State}
    (started : program.opened settings = .ok opened) (stream : Stream) :
    opened.written stream = [] := by
  obtain ⟨-, -, -, rfl⟩ := Program.opened_eq_ok.mp started
  cases stream <;> rfl

/-- An action adds its bytes to what was written to a stream. -/
theorem State.written_perform (state : State) (action : Action) (stream : Stream) :
    (state.perform action).2.written stream = state.written stream ++ action.bytesTo stream := by
  cases action with
  | write written bytes =>
    cases written <;> cases stream <;> simp [perform, State.written, Action.bytesTo]
  | growMemory pages required =>
    change (state.growMemory pages).2.written stream = state.written stream ++ []
    rw [List.append_nil, growMemory]
    split
    · rfl
    · dsimp only
      split <;> cases stream <;> rfl
  | growTable elements required =>
    change (state.growTable elements).2.written stream = state.written stream ++ []
    rw [List.append_nil, growTable]
    split
    · rfl
    · dsimp only
      split <;> cases stream <;> rfl

/-- A guest goes on after an action that is granted or that it does not insist on. -/
theorem State.goesOn_perform (state : State) (settings : InterpreterSettings) (action : Action) :
    (state.perform action).1 = !(action.insists && !state.grants settings action) := by
  cases action with
  | write stream bytes => cases stream <;> rfl
  | growMemory pages required =>
    change ((state.growMemory pages).1 || !required) = !(required && !(state.growMemory pages).1)
    rw [Bool.not_and, Bool.not_not, Bool.or_comm]
  | growTable elements required =>
    change ((state.growTable elements).1 || !required) =
      !(required && !(state.growTable elements).1)
    rw [Bool.not_and, Bool.not_not, Bool.or_comm]

/-- An exchange has the request of its action. -/
theorem State.request_exchange (state : State) (settings : InterpreterSettings) (action : Action) :
    [state.exchange settings action].filterMap Exchange.request =
      (state.request? action).toList := by
  cases requested : state.request? action <;> simp [exchange, requested]

/-- Exchanges leave their requests on record. -/
theorem Conduct.Leads.limiter {conduct : Conduct} {settings : InterpreterSettings}
    {opened state : State} {trace : List Exchange}
    (led : conduct.Leads settings opened trace state) :
    state.limiter = opened.limiter.recordAll (trace.filterMap Exchange.request) := by
  induction led with
  | start => rfl
  | @act trace state action led next ih =>
    rw [State.limiter_perform, ih, List.filterMap_append, State.request_exchange,
      Limiter.recordAll, Limiter.recordAll, Limiter.recordAll, List.foldl_append]

/-- A request goes beyond the ceiling of its kind. -/
def Growth.Exceeds (settings : InterpreterSettings) : Growth → Prop
  | .memory desired => settings.maxMemory < desired
  | .table desired => maxTableElements < desired

/-- A limiter refuses the requests that go beyond the ceiling of their kind. -/
theorem Growth.exceeds_iff (settings : InterpreterSettings) (growth : Growth) :
    growth.Exceeds settings ↔
      ({ maxMemory := settings.maxMemory } : Limiter).grants growth = false := by
  cases growth <;> simp [Exceeds, Limiter.grants]

/-- The limiter of a run is tripped exactly if a request went beyond the ceiling of its kind. -/
theorem Reactive.Run.tripped_iff {guest : Reactive} {settings : InterpreterSettings} {code : String}
    (run : guest.Run settings code) :
    run.last.limiter.tripped = true ↔ ∃ growth ∈ run.requests, growth.Exceeds settings := by
  rw [run.led.limiter, Limiter.tripped_recordAll, Program.opened_untripped run.started,
    Program.opened_grants run.started, or_iff_right Bool.false_ne_true]
  simp only [Growth.exceeds_iff]
  rfl

end Scratchpad.Guest
