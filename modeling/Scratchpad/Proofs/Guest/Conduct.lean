import Scratchpad.Guest.Conduct
import Scratchpad.Guest.Schedule

/-!
# Programs among the guests that hear their answers

What is proved of every guest holds of programs: the run of a program on a code is a run of the
guest that it is, with the same requests, and whatever a host returns of it, in any schedule with
other runs on its engine, is something that can be reported of that guest.
-/
namespace Scratchpad.Guest

/-- A program that has done its first actions goes on with the rest of them, or traps if it was
stopped there; the requests of the exchanges are those of the actions. -/
theorem leads_follow {settings : InterpreterSettings} {opened state : State} {ending : Ending}
    {all first rest : List Action} {trace : List Exchange}
    (led : (follow ending all).Leads settings opened trace state)
    (goesOn : ∀ answers, follow ending all (trace.map Exchange.granted ++ answers) =
      follow ending (first ++ rest) answers) :
    ∃ more, (follow ending all).Leads settings opened (trace ++ more) (state.performAll first).2 ∧
      more.filterMap Exchange.request = state.requests first ∧
      ∀ answers, follow ending all ((trace ++ more).map Exchange.granted ++ answers) =
        if (state.performAll first).1 then follow ending rest answers else .ends .traps := by
  induction first generalizing trace state with
  | nil => exact ⟨[], by rwa [List.append_nil], rfl, by rwa [List.append_nil]⟩
  | cons action first ih =>
    have next : follow ending all (trace.map Exchange.granted) = .act action := by
      have now := goesOn []
      rwa [List.append_nil] at now
    have acted := led.act next
    have onward (answers : List Bool) :
        follow ending all ((trace ++ [state.exchange settings action]).map Exchange.granted ++
          answers) =
        if (state.perform action).1 then follow ending (first ++ rest) answers
          else .ends .traps := by
      rw [List.map_append, List.append_assoc, goesOn, state.goesOn_perform settings action]
      change (if action.insists && !state.grants settings action then _ else _) = _
      cases action.insists && !state.grants settings action <;> rfl
    cases granted : (state.perform action).1 with
    | true =>
      rw [State.performAll_goesOn granted, State.requests_goesOn granted]
      simp only [granted, if_true] at onward
      obtain ⟨more, leads, requested, onwards⟩ := ih acted onward
      refine ⟨state.exchange settings action :: more, ?_, ?_, ?_⟩
      · rwa [List.append_assoc] at leads
      · rw [← List.singleton_append, List.filterMap_append, State.request_exchange, requested]
      · intro answers
        have later := onwards answers
        rwa [List.append_assoc] at later
    | false =>
      rw [State.performAll_stopped granted, State.requests_stopped granted]
      rw [granted] at onward
      exact ⟨[state.exchange settings action], acted, State.request_exchange .., onward⟩

/-- A budget with which nothing can begin is a budget. -/
theorem isSome_of_starved {settings : InterpreterSettings} (starving : starved settings = true) :
    settings.maxFuel.isSome = true := by
  unfold starved at starving
  split at starving
  · next budgeted => rw [budgeted]; rfl
  · cases starving

/-- A program that has done nothing is about to do its actions. -/
theorem Program.leads_start (program : Program) (settings : InterpreterSettings) (code : String)
    (opened : State) :
    (program.reactive.conduct (arguments code)).Leads settings opened [] opened := .start

/-- Having done some of its actions, a program that gets anywhere can be stopped by a check. -/
theorem Program.exists_interrupted {program : Program} {settings : InterpreterSettings}
    {opened : State} (started : program.opened settings = .ok opened) (code : String)
    (actions : Nat) : ∃ run : program.reactive.Run settings code,
      run.result = .error (program.interrupted settings code actions opened) := by
  have split := (List.take_append_drop actions (program.actions (arguments code))).symm
  obtain ⟨trace, led, -, -⟩ := leads_follow (program.leads_start settings code opened)
    fun answers => congrArg (follow program.ending · answers) split
  exact ⟨⟨opened, trace, _, .interrupted, started, led, .interrupted⟩, rfl⟩

/-- What a program does with a code is a run of the guest that it is; unless it is starved, it does
all its actions and has their requests. -/
theorem Program.exists_run {program : Program} {settings : InterpreterSettings} {opened : State}
    (started : program.opened settings = .ok opened) (code : String) :
    ∃ run : program.reactive.Run settings code, run.result = program.run settings code ∧
      (starved settings = false →
        run.last = (opened.performAll (program.actions (arguments code))).2 ∧
        run.requests = opened.requests (program.actions (arguments code))) := by
  rw [run_opened started, enter_eq]
  cases starving : starved settings with
  | true =>
    exact ⟨⟨opened, [], opened, .seen .outOfFuel, started, .start,
      .spent (isSome_of_starved starving)⟩, rfl, nofun⟩
  | false =>
    have whole (answers : List Bool) :
        follow program.ending (program.actions (arguments code)) answers =
          follow program.ending (program.actions (arguments code) ++ []) answers := by
      rw [List.append_nil]
    obtain ⟨trace, led, requested, next⟩ :=
      leads_follow (program.leads_start settings code opened) whole
    have last := next []
    rw [List.append_nil, List.nil_append] at last
    rw [List.nil_append] at led
    cases performed : opened.performAll (program.actions (arguments code)) with
    | mk goesOn state =>
      rw [performed] at led last
      cases goesOn <;>
      exact ⟨⟨opened, trace, state, _, started, led, .itself last⟩, rfl, fun _ => ⟨rfl, requested⟩⟩

/-- What a program does with a code can be reported of the guest that it is. -/
theorem Program.reports_run (program : Program) (settings : InterpreterSettings) (code : String) :
    program.reactive.Reports settings code (program.run settings code) := by
  cases started : program.opened settings with
  | error failure =>
    rw [Program.run, started]
    exact .unopened started
  | ok opened =>
    obtain ⟨run, reported, -⟩ := exists_run started code
    rw [← reported]
    exact .ran run

namespace Engine

/-- What a history tells of the guest of a run: whose code it has, and what it can have left. -/
def TaskOf (program : Program) (settings : InterpreterSettings) (history : List Move) (run : Nat) :
    Task → Prop
  | .absent => True
  | .queued code | .running code _ => .spawn run code ∈ history
  | .ended result =>
    ∃ code, .spawn run code ∈ history ∧ program.reactive.Reports settings code result

/-- What a history tells of the host of a run: that it asked for it, and what it can return. -/
def HostOf (program : Program) (settings : InterpreterSettings) (history : List Move) (run : Nat) :
    Host → Prop
  | .absent => True
  | .waiting => ∃ code, .spawn run code ∈ history
  | .returned result =>
    ∃ code, .spawn run code ∈ history ∧ program.reactive.Reports settings code result

/-- What a history tells of a guest stays so. -/
theorem TaskOf.cons {program : Program} {settings : InterpreterSettings} {history : List Move}
    {run : Nat} {task : Task} (told : TaskOf program settings history run task) (latest : Move) :
    TaskOf program settings (latest :: history) run task := by
  cases task with
  | absent => trivial
  | queued code => exact List.mem_cons_of_mem latest told
  | running code deadline => exact List.mem_cons_of_mem latest told
  | ended result => exact told.imp fun code => And.imp_left (List.mem_cons_of_mem latest)

/-- What a history tells of a host stays so. -/
theorem HostOf.cons {program : Program} {settings : InterpreterSettings} {history : List Move}
    {run : Nat} {host : Host} (told : HostOf program settings history run host) (latest : Move) :
    HostOf program settings (latest :: history) run host := by
  cases host with
  | absent => trivial
  | waiting => exact told.imp fun code => List.mem_cons_of_mem latest
  | returned result => exact told.imp fun code => And.imp_left (List.mem_cons_of_mem latest)

/-- What the guest of a program leaves when it comes to its own end can be reported of it. -/
theorem reports_of_finish {engine : Engine} {run deadline : Nat} {code : String}
    {result : Except Failure Captured} (running : engine.task run = .running code deadline)
    (taken : engine.step? (.finish run) = some (engine.setTask run (.ended result))) :
    engine.program.reactive.Reports engine.settings code result := by
  simp only [step?, running] at taken
  split at taken
  · have left := congrArg (·.task run) (Option.some.inj taken)
    simp only [setTask_task, Function.update_self, Task.ended.injEq] at left
    rw [← left]
    exact engine.program.reports_run engine.settings code
  · cases taken

/-- What the guest of a program leaves that a check interrupts can be reported of it. -/
theorem reports_of_check {engine : Engine} {run deadline actions : Nat} {code : String}
    {result : Except Failure Captured} (running : engine.task run = .running code deadline)
    (passed : deadline ≤ engine.epoch)
    (taken : engine.step? (.check run actions) = some (engine.setTask run (.ended result))) :
    engine.program.reactive.Reports engine.settings code result := by
  cases started : engine.program.opened engine.settings with
  | error failure => simp [step?, running, started] at taken
  | ok opened =>
    simp only [step?, running, started, if_pos passed] at taken
    have left := congrArg (·.task run) (Option.some.inj taken)
    simp only [setTask_task, Function.update_self, Task.ended.injEq] at left
    obtain ⟨interrupted, reported⟩ := Program.exists_interrupted started code actions
    rw [← left, ← reported]
    exact .ran interrupted

/-- What hosts return of a program, whatever the schedule of its runs on one engine, can be reported
of the guest that it is. -/
theorem returned_reports (program : Program) (settings : InterpreterSettings) :
    ∀ history engine, (idle program settings).after? history = some engine →
      (engine.program = program ∧ engine.settings = settings) ∧
      (∀ run, HostOf program settings history run (engine.host run)) ∧
      ∀ run, TaskOf program settings history run (engine.task run) := by
  apply Moves.after_induction
  · exact ⟨⟨rfl, rfl⟩, fun run => trivial, fun run => trivial⟩
  · rintro earlier before latest last led ⟨⟨rfl, rfl⟩, hosts, tasks⟩ taken
    have hostsStay (run : Nat) := (hosts run).cons latest
    have tasksStay (run : Nat) := (tasks run).cons latest
    refine ⟨step_program taken, ?_⟩
    rcases step_cases taken with ⟨run, code, rfl, absent, rfl⟩ | ⟨run, code, rfl, queued, rfl⟩ |
      ⟨run, actions, code, deadline, rfl, running, ahead, rfl⟩ |
      ⟨run, code, deadline, result, running, move, rfl⟩ |
      ⟨run, result, rfl, waiting, ended, rfl⟩ | ⟨run, rfl, waiting, rfl⟩
    · exact ⟨(Function.forall_update_iff _ _).mpr
          ⟨⟨code, List.mem_cons_self⟩, fun other _ => hostsStay other⟩,
        (Function.forall_update_iff _ _).mpr
          ⟨List.mem_cons_self, fun other _ => tasksStay other⟩⟩
    · have asked := tasksStay run
      rw [queued] at asked
      exact ⟨hostsStay,
        (Function.forall_update_iff _ _).mpr ⟨asked, fun other _ => tasksStay other⟩⟩
    · exact ⟨hostsStay, tasksStay⟩
    · have asked := tasksStay run
      rw [running] at asked
      have reported : before.program.reactive.Reports before.settings code result := by
        rcases move with rfl | ⟨passed, actions, rfl⟩
        · exact reports_of_finish running taken
        · exact reports_of_check running passed taken
      exact ⟨hostsStay, (Function.forall_update_iff _ _).mpr
        ⟨⟨code, asked, reported⟩, fun other _ => tasksStay other⟩⟩
    · have left := tasksStay run
      rw [ended] at left
      exact ⟨(Function.forall_update_iff _ _).mpr ⟨left, fun other _ => hostsStay other⟩,
        tasksStay⟩
    · have asked := hostsStay run
      rw [waiting] at asked
      obtain ⟨code, asked⟩ := asked
      exact ⟨(Function.forall_update_iff _ _).mpr
        ⟨⟨code, asked, .overdue⟩, fun other _ => hostsStay other⟩, tasksStay⟩

end Engine

end Scratchpad.Guest
