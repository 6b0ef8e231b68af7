import Scratchpad.Guest.Conduct

/-!
# Exits with status zero

A guest that exits with status zero has done no less than one that returns, and its host tells the
two apart in one case only: the limiter refused a request, and the guest came to its ending all the
same. A return is then a success, and the exit a memory failure. Every run of a guest is one of the
guest that exits in place of returning, stopped in the same place; and because what a guest does is
decided by its answers, a guest comes to its own ending in one place only. So the same can be
reported of the two guests exactly if the one never returns past a refusal.
-/
namespace Scratchpad.Guest

/-! ## Guests that exit in place of returning -/

/-- The ending with an exit of status zero in place of a return. -/
def Ending.exitsZero : Ending → Ending
  | .returns => .exits 0
  | .exits status => .exits status
  | .traps => .traps
  | .spins => .spins

/-- What comes next, with an exit of status zero in place of a return. -/
def NextStep.exitsZero : NextStep → NextStep
  | .act action => .act action
  | .ends ending => .ends ending.exitsZero

/-- The stop of the guest that exits with status zero in place of returning. -/
def Stop.exitsZero : Stop → Stop
  | .seen .returned => .seen (.exited 0)
  | stop => stop

/-- What a guest does, with an exit of status zero in place of a return. -/
def Conduct.exitsZero (conduct : Conduct) : Conduct := fun answers => (conduct answers).exitsZero

/-- The guest that exits with status zero where another one returns. -/
def Reactive.exitsZero (guest : Reactive) : Reactive :=
  { guest with conduct := fun given => (guest.conduct given).exitsZero }

/-- The program with another ending. -/
def Program.endingBy (program : Program) (ending : Ending) : Program := { program with ending }

/-- A host sees an exit of status zero in place of a return. -/
theorem Ending.seen_exitsZero (ending : Ending) (settings : InterpreterSettings) :
    Stop.seen (ending.exitsZero.seen settings) = (Stop.seen (ending.seen settings)).exitsZero := by
  cases ending with
  | returns | traps => rfl
  | exits status | spins =>
    simp only [Ending.exitsZero, seen]
    split <;> rfl

/-- A guest acts exactly where the guest that exits acts. -/
theorem NextStep.exitsZero_eq_act {next : NextStep} {action : Action} :
    next.exitsZero = .act action ↔ next = .act action := by
  cases next <;> simp [exitsZero]

variable {conduct : Conduct} {settings : InterpreterSettings} {opened : State}

namespace Conduct

/-- The two guests do the same until they come to their endings. -/
theorem leads_exitsZero {trace : List Exchange} {state : State} :
    conduct.exitsZero.Leads settings opened trace state ↔
      conduct.Leads settings opened trace state := by
  constructor
  · intro led
    induction led with
    | start => exact .start
    | act _ next ih => exact ih.act (NextStep.exitsZero_eq_act.mp next)
  · intro led
    induction led with
    | start => exact .start
    | act _ next ih => exact ih.act (NextStep.exitsZero_eq_act.mpr next)

/-- Where a guest can be stopped, the guest that exits can be stopped alike. -/
theorem Stops.exitsZero {trace : List Exchange} {stop : Stop}
    (stops : conduct.Stops settings trace stop) :
    conduct.exitsZero.Stops settings trace stop.exitsZero := by
  cases stops with
  | @itself ending ends =>
    rw [← ending.seen_exitsZero settings]
    refine .itself ?_
    rw [Conduct.exitsZero, ends]
    rfl
  | spent budgeted => exact .spent budgeted
  | overdue => exact .overdue
  | interrupted => exact .interrupted

/-- The guest that exits is stopped only where the other one is stopped alike. -/
theorem exists_stops_of_exitsZero {trace : List Exchange} {stop : Stop}
    (stops : conduct.exitsZero.Stops settings trace stop) :
    ∃ other, conduct.Stops settings trace other ∧ other.exitsZero = stop := by
  cases stops with
  | @itself ended ends =>
    cases next : conduct (trace.map Exchange.granted) with
    | act action =>
      rw [Conduct.exitsZero, next] at ends
      cases ends
    | ends ending =>
      rw [Conduct.exitsZero, next] at ends
      cases ends
      exact ⟨_, .itself next, (ending.seen_exitsZero settings).symm⟩
  | spent budgeted => exact ⟨_, .spent budgeted, rfl⟩
  | overdue => exact ⟨_, .overdue, rfl⟩
  | interrupted => exact ⟨_, .interrupted, rfl⟩

/-! ## What a guest does is decided by its answers -/

/-- Exchanges of one number lead to one place. -/
theorem Leads.unique {trace other : List Exchange} {state last : State}
    (led : conduct.Leads settings opened trace state)
    (led' : conduct.Leads settings opened other last) (same : trace.length = other.length) :
    trace = other ∧ state = last := by
  induction led generalizing other last with
  | start =>
    cases led' with
    | start => exact ⟨rfl, rfl⟩
    | act => simp at same
  | act led next ih =>
    cases led' with
    | start => simp at same
    | act led' next' =>
      obtain ⟨rfl, rfl⟩ := ih led' (by simpa using same)
      cases next.symm.trans next'
      exact ⟨rfl, rfl⟩

/-- Before its last exchange, a guest was in a place where it acted. -/
theorem Leads.take {trace : List Exchange} {state : State}
    (led : conduct.Leads settings opened trace state) {count : Nat} (fewer : count < trace.length) :
    ∃ before action, conduct.Leads settings opened (trace.take count) before ∧
      conduct ((trace.take count).map Exchange.granted) = .act action := by
  induction led with
  | start => exact absurd fewer (Nat.not_lt_zero _)
  | @act trace state action led next ih =>
    rw [List.length_append, List.length_singleton] at fewer
    by_cases within : count < trace.length
    · rw [List.take_append_of_le_length (Nat.le_of_lt within)]
      exact ih within
    · have whole : count = trace.length := by omega
      rw [List.take_append_of_le_length (Nat.le_of_eq whole), whole, List.take_length]
      exact ⟨state, action, led, next⟩

/-- A guest does not come to its ending earlier than it does. -/
theorem Leads.length_le_of_ends {trace other : List Exchange} {state last : State} {ending : Ending}
    (led : conduct.Leads settings opened trace state)
    (led' : conduct.Leads settings opened other last)
    (ends : conduct (other.map Exchange.granted) = .ends ending) :
    trace.length ≤ other.length := by
  refine Nat.not_lt.mp fun longer => ?_
  obtain ⟨before, action, reached, acts⟩ := led.take longer
  have shorter : (trace.take other.length).length = other.length := by
    rw [List.length_take]
    omega
  obtain ⟨same, -⟩ := reached.unique led' shorter
  rw [same, ends] at acts
  cases acts

/-- A guest comes to its ending in one place. -/
theorem Leads.unique_of_ends {trace other : List Exchange} {state last : State}
    {ending ending' : Ending} (led : conduct.Leads settings opened trace state)
    (ends : conduct (trace.map Exchange.granted) = .ends ending)
    (led' : conduct.Leads settings opened other last)
    (ends' : conduct (other.map Exchange.granted) = .ends ending') :
    trace = other ∧ state = last :=
  led.unique led' (Nat.le_antisymm (led.length_le_of_ends led' ends')
    (led'.length_le_of_ends led ends))

end Conduct

/-! ## Runs -/

namespace Reactive

variable {guest : Reactive} {code : String}

/-- A run of a guest as one of the guest that exits in place of returning. -/
def Run.exitsZero (run : guest.Run settings code) : guest.exitsZero.Run settings code where
  opened := run.opened
  trace := run.trace
  last := run.last
  stop := run.stop.exitsZero
  started := run.started
  led := Conduct.leads_exitsZero.mpr run.led
  stopped := run.stopped.exitsZero

/-- Every run of the guest that exits is one of the guest that returns. -/
theorem exists_run_of_exitsZero (other : guest.exitsZero.Run settings code) :
    ∃ run : guest.Run settings code, run.exitsZero = other := by
  obtain ⟨opened, trace, last, stop, started, led, stopped⟩ := other
  obtain ⟨stop, stopped', rfl⟩ := Conduct.exists_stops_of_exitsZero stopped
  exact ⟨⟨opened, trace, last, stop, started, Conduct.leads_exitsZero.mp led, stopped'⟩, rfl⟩

/-- The guest of a run returns although one of its requests was refused. -/
def Run.ReturnsPastRefusal (run : guest.Run settings code) : Prop :=
  run.stop = .seen .returned ∧ ∃ growth ∈ run.requests, growth.Exceeds settings

/-- A run in which the guest returns is a success, and the exit in its place is one unless a request
was refused. -/
theorem Run.result_of_returned {run : guest.Run settings code}
    (returned : run.stop = .seen .returned) :
    run.result = .ok (run.last.capture settings 0) ∧
      run.exitsZero.result = if run.last.limiter.tripped then .error (refusedFailure settings)
        else .ok (run.last.capture settings 0) := by
  constructor
  · rw [result, returned]
    rfl
  · change run.stop.exitsZero.result settings run.last = _
    rw [returned]
    rfl

/-- A run in which the guest does not return is stopped alike if it exits in place of returning. -/
theorem Run.result_of_not_returned {run : guest.Run settings code}
    (other : run.stop ≠ .seen .returned) : run.exitsZero.result = run.result := by
  change run.stop.exitsZero.result settings run.last = run.stop.result settings run.last
  cases stop : run.stop with
  | interrupted => rfl
  | seen ended =>
    cases ended with
    | returned => exact absurd stop other
    | exited _ | trapped | outOfFuel | outOfTime => rfl

/-- A run reports the same of a return and of an exit in its place exactly if the guest does not
return past a refusal. -/
theorem Run.result_exitsZero_iff (run : guest.Run settings code) :
    run.exitsZero.result = run.result ↔ ¬ run.ReturnsPastRefusal := by
  rw [ReturnsPastRefusal, ← run.tripped_iff]
  by_cases returned : run.stop = .seen .returned
  · obtain ⟨returns, exits⟩ := Run.result_of_returned returned
    rw [returns, exits]
    cases run.last.limiter.tripped <;> simp [returned]
  · exact iff_of_true (Run.result_of_not_returned returned) fun past => returned past.1

/-- Past a refusal, a return is a success and an exit in its place a memory failure. -/
theorem Run.ReturnsPastRefusal.results {run : guest.Run settings code}
    (past : run.ReturnsPastRefusal) :
    (∃ captured, captured.isSuccess = true ∧ run.result = .ok captured) ∧
      run.exitsZero.result = .error (refusedFailure settings) := by
  obtain ⟨returned, refused⟩ := past
  obtain ⟨returns, exits⟩ := Run.result_of_returned returned
  rw [if_pos (run.tripped_iff.mpr refused)] at exits
  exact ⟨⟨_, rfl, returns⟩, exits⟩

/-- A run that ends with a status was stopped by the ending of its guest. -/
theorem Run.ends_of_ok {run : guest.Run settings code} {captured : Captured}
    (ok : run.result = .ok captured) :
    ∃ ending, guest.conduct (arguments code) (run.trace.map Exchange.granted) = .ends ending := by
  obtain ⟨opened, trace, last, stop, started, led, stopped⟩ := run
  cases stopped with
  | itself ends => exact ⟨_, ends⟩
  | spent | interrupted =>
    rw [Run.result, Stop.result_eq] at ok
    split at ok <;> cases ok
  | overdue => cases ok

/-- The guest that exits in place of returning does not succeed past a refusal. -/
theorem Run.not_ok_of_tripped {run : guest.Run settings code}
    (tripped : run.last.limiter.tripped = true) (captured : Captured) :
    run.exitsZero.result ≠ .ok captured := by
  change run.stop.exitsZero.result settings run.last ≠ .ok captured
  cases run.stop with
  | interrupted => exact nofun
  | seen ended => cases ended <;> simp [Stop.exitsZero, Stop.result, judge, tripped]

/-- Where the guest that exits comes to its ending, the other one comes to its own. -/
theorem Run.ends_of_exitsZero {run : guest.Run settings code} {captured : Captured}
    (ok : run.exitsZero.result = .ok captured) :
    ∃ ending, guest.conduct (arguments code) (run.trace.map Exchange.granted) = .ends ending := by
  obtain ⟨ending, exited⟩ := Run.ends_of_ok ok
  cases next : guest.conduct (arguments code) (run.trace.map Exchange.granted) with
  | ends own => exact ⟨own, rfl⟩
  | act action =>
    have acts : guest.exitsZero.conduct (arguments code) (run.trace.map Exchange.granted) =
        .act action := NextStep.exitsZero_eq_act.mpr next
    cases acts.symm.trans exited

/-- If a guest can return past a refusal, its success cannot be reported of the guest that exits in
place of returning. -/
theorem Run.ReturnsPastRefusal.not_reports {run : guest.Run settings code}
    (past : run.ReturnsPastRefusal) : ¬ guest.exitsZero.Reports settings code run.result := by
  obtain ⟨⟨captured, -, succeeds⟩, -⟩ := past.results
  rw [succeeds]
  generalize reported : Except.ok captured = result
  rintro (failed | - | other)
  · cases reported
  · cases reported
  · obtain ⟨run', rfl⟩ := exists_run_of_exitsZero other
    -- The other run came to the ending of the guest, and that is where this one came to it.
    obtain ⟨_, ends⟩ := Run.ends_of_ok succeeds
    obtain ⟨_, ends'⟩ := Run.ends_of_exitsZero reported.symm
    have begun : run'.opened = run.opened := Except.ok.inj (run'.started.symm.trans run.started)
    obtain ⟨-, same⟩ := Conduct.Leads.unique_of_ends run.led ends (begun ▸ run'.led) ends'
    have tripped : run'.last.limiter.tripped = true := same ▸ run.tripped_iff.mpr past.2
    exact Run.not_ok_of_tripped tripped captured reported.symm

end Reactive

/-- A run reports the same of a return and of an exit with status zero in its place exactly if the
guest does not return past a refusal, where the one is a success and the other a memory failure; and
the same can be reported of the two guests exactly if no run returns past a refusal. -/
theorem zero_exit_is_return_iff_unrefused (guest : Reactive) (settings : InterpreterSettings)
    (code : String) :
    (∀ run : guest.Run settings code,
      (run.exitsZero.result = run.result ↔ ¬ run.ReturnsPastRefusal) ∧
      (run.ReturnsPastRefusal →
        (∃ captured, captured.isSuccess = true ∧ run.result = .ok captured) ∧
          run.exitsZero.result = .error (refusedFailure settings))) ∧
    (∀ other : guest.exitsZero.Run settings code,
      ∃ run : guest.Run settings code, run.exitsZero = other) ∧
    ((∀ result, guest.exitsZero.Reports settings code result ↔
        guest.Reports settings code result) ↔
      ∀ run : guest.Run settings code, ¬ run.ReturnsPastRefusal) := by
  refine ⟨fun run => ⟨run.result_exitsZero_iff, Reactive.Run.ReturnsPastRefusal.results⟩,
    Reactive.exists_run_of_exitsZero, ?_, ?_⟩
  · intro same run past
    exact past.not_reports ((same run.result).mpr (.ran run))
  · intro unrefused result
    constructor
    · rintro (failed | - | other)
      · exact .unopened failed
      · exact .overdue
      · obtain ⟨run, rfl⟩ := Reactive.exists_run_of_exitsZero other
        rw [run.result_exitsZero_iff.mpr (unrefused run)]
        exact .ran run
    · rintro (failed | - | run)
      · exact .unopened failed
      · exact .overdue
      · rw [← run.result_exitsZero_iff.mpr (unrefused run)]
        exact .ran run.exitsZero

/-- A program that returns is the guest that exits in place of returning, if it is given that
ending. -/
theorem Program.reactive_exits (program : Program) (returns : program.ending = .returns) :
    (program.endingBy (.exits 0)).reactive = program.reactive.exitsZero := by
  have follows (actions : List Action) (answers : List Bool) :
      follow (.exits 0) actions answers = (follow .returns actions answers).exitsZero := by
    induction actions generalizing answers with
    | nil => rfl
    | cons action rest ih =>
      cases answers with
      | nil => rfl
      | cons granted answers =>
        rw [follow, follow, ih]
        split <;> rfl
  have conducts : (program.endingBy (.exits 0)).reactive.conduct =
      program.reactive.exitsZero.conduct := by
    funext given answers
    change follow (.exits 0) _ _ = (follow program.ending _ _).exitsZero
    rw [returns]
    exact follows _ _
  exact congrArg (fun conduct => { program.reactive with conduct }) conducts

/-- A program with one page of memory that writes a text, asks for a second page, in vain or not,
and returns. -/
def optimist : Program where
  memory := some 1
  table := none
  unresolved := false
  entry := .proper
  actions _ := [.write .output (Text.Utf8.bytes "kept"), .growMemory 1 false]
  ending := .returns

/-- With a ceiling of one page, the exit of a program that does not mind the refusal of a second one
is not taken for a return. -/
theorem refused_zero_exit_fails :
    (optimist.endingBy (.exits 0)).reactive = optimist.reactive.exitsZero ∧
      optimist.run { maxMemory := pageSize } "" =
        .ok { output := "kept", error := "", status := 0 } ∧
      (optimist.endingBy (.exits 0)).run { maxMemory := pageSize } "" =
        .error (.memoryLimit "linear memory limit of 65536 bytes reached") :=
  ⟨optimist.reactive_exits rfl, rfl, rfl⟩

end Scratchpad.Guest
