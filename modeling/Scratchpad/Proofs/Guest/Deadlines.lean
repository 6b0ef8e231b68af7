import Scratchpad.Guest.Schedule

/-!
# Deadlines of guests that were given up

A guest sets its deadline one epoch ahead of the moment when it starts, not of the moment when its
host begins to wait. The deadline is behind exactly if some timer has fired since the start, so the
timer of the guest's own host counts only if it fires later than that. A guest that gets its thread
too late runs on with a deadline that its host will never move the epoch to. Every history in which
no guest starts after its own timer fired leaves no such guest, whatever the other runs do, and no
other history does.
-/
namespace Scratchpad.Guest.Engine

/-- Some timer fired after the guest of a run started. -/
def FiredSince (run : Nat) (history : List Move) : Prop :=
  ∃ later earlier other, history = later ++ .start run :: earlier ∧ .timer other ∈ later

/-- The guests whose hosts returned that the time is over are interrupted by their next check. -/
def Stoppable (engine : Engine) : Prop :=
  ∀ run limit code deadline, engine.host run = .returned (.error (.timedOut limit)) →
    engine.task run = .running code deadline → deadline ≤ engine.epoch

/-- No guest starts after the timer of its own host fired. -/
def StartsInTime (engine : Engine) (history : List Move) : Prop :=
  ∀ run earlier, .start run :: earlier <:+ history →
    (engine.after? (.start run :: earlier)).isSome = true → .timer run ∉ earlier

/-- A timer has fired since a start if it is the latest move and the start came before, or if one
had fired before the latest move. -/
theorem firedSince_cons {run : Nat} {latest : Move} {earlier : List Move} :
    FiredSince run (latest :: earlier) ↔
      (∃ other, latest = .timer other) ∧ .start run ∈ earlier ∨ FiredSince run earlier := by
  constructor
  · rintro ⟨later, before, other, split, fired⟩
    cases later with
    | nil => cases fired
    | cons first later =>
      obtain ⟨rfl, rest⟩ := List.cons.inj split
      rcases List.mem_cons.mp fired with rfl | fired
      · refine .inl ⟨⟨other, rfl⟩, ?_⟩
        rw [rest]
        exact List.mem_append_right later List.mem_cons_self
      · exact .inr ⟨later, before, other, rest, fired⟩
  · rintro (⟨⟨other, rfl⟩, started⟩ | ⟨later, before, other, split, fired⟩)
    · obtain ⟨later, before, split⟩ := List.append_of_mem started
      exact ⟨.timer other :: later, before, other, by rw [split]; rfl, List.mem_cons_self⟩
    · exact ⟨latest :: later, before, other, by rw [split]; rfl, List.mem_cons_of_mem latest fired⟩

/-- What a history tells of the host of a run. -/
def HostFollows (history : List Move) (run : Nat) : Host → Prop
  | .absent | .waiting => .timer run ∉ history
  | .returned result => .timer run ∈ history → ∃ limit, result = .error (.timedOut limit)

/-- What a history and the epoch that it led to tell of the guest of a run. -/
def TaskFollows (history : List Move) (epoch run : Nat) : Task → Prop
  | .absent | .queued _ => .start run ∉ history
  | .running _ deadline => .start run ∈ history ∧ deadline ≤ epoch + 1 ∧
      (deadline ≤ epoch ↔ FiredSince run history)
  | .ended _ => True

/-- What a history and the epoch that it led to tell of a run. -/
structure RunFollows (history : List Move) (epoch run : Nat) (host : Host) (task : Task) :
    Prop where
  waits : HostFollows history run host
  works : TaskFollows history epoch run task
  /-- A run that nobody asked for has no guest. -/
  asked : host = .absent → task = .absent
  /-- A host returns because its guest ended or because its timer fired. -/
  left : ∀ result, host = .returned result → (∃ result, task = .ended result) ∨ .timer run ∈ history

/-- All runs of an engine are as the moves that led to it tell. -/
def Follows (history : List Move) (engine : Engine) : Prop :=
  ∀ run, RunFollows history engine.epoch run (engine.host run) (engine.task run)

/-- What is told of a host stays so after a move that is not its timer. -/
theorem HostFollows.cons {history : List Move} {run : Nat} {host : Host} {latest : Move}
    (follows : HostFollows history run host) (silent : latest ≠ .timer run) :
    HostFollows (latest :: history) run host := by
  have same : .timer run ∈ latest :: history ↔ .timer run ∈ history := by
    rw [List.mem_cons, or_iff_right (Ne.symm silent)]
  cases host <;> simp only [HostFollows, same] at follows ⊢ <;> exact follows

/-- What is told of a guest stays so after a move that neither starts it nor is a timer. -/
theorem TaskFollows.cons {history : List Move} {epoch run : Nat} {task : Task} {latest : Move}
    (follows : TaskFollows history epoch run task) (silent : ∀ other, latest ≠ .timer other)
    (other : latest ≠ .start run) : TaskFollows (latest :: history) epoch run task := by
  have same : .start run ∈ latest :: history ↔ .start run ∈ history := by
    rw [List.mem_cons, or_iff_right (Ne.symm other)]
  have fired : FiredSince run (latest :: history) ↔ FiredSince run history := by
    rw [firedSince_cons, or_iff_right]
    rintro ⟨⟨timer, isTimer⟩, -⟩
    exact silent timer isTimer
  cases task <;> simp only [TaskFollows, same, fired] at follows ⊢ <;> exact follows

/-- After any timer, the deadline of every guest that runs is behind. -/
theorem TaskFollows.timer {history : List Move} {epoch run : Nat} {task : Task}
    (follows : TaskFollows history epoch run task) (fired : Nat) :
    TaskFollows (.timer fired :: history) (epoch + 1) run task := by
  have same : .start run ∈ Move.timer fired :: history ↔ .start run ∈ history := by
    rw [List.mem_cons, or_iff_right nofun]
  cases task with
  | absent => simpa only [TaskFollows, same] using follows
  | queued code => simpa only [TaskFollows, same] using follows
  | ended result => trivial
  | running code deadline =>
    obtain ⟨started, ahead, -⟩ := follows
    refine ⟨same.mpr started, Nat.le_succ_of_le ahead, ?_⟩
    exact iff_of_true ahead (firedSince_cons.mpr (.inl ⟨⟨fired, rfl⟩, started⟩))

/-- A guest that starts has its deadline ahead. -/
theorem taskFollows_start {history : List Move} {epoch run : Nat} {code : String}
    (follows : TaskFollows history epoch run (.queued code)) :
    TaskFollows (.start run :: history) epoch run (.running code (epoch + 1)) := by
  refine ⟨List.mem_cons_self, Nat.le_refl _, iff_of_false (Nat.not_succ_le_self epoch) ?_⟩
  rw [firedSince_cons]
  rintro (⟨⟨other, isTimer⟩, -⟩ | ⟨later, earlier, other, rfl, -⟩)
  · cases isTimer
  · exact follows (List.mem_append_right later List.mem_cons_self)

/-- What is told of a run stays so after a move that neither starts it nor is a timer. -/
theorem RunFollows.cons {history : List Move} {epoch run : Nat} {host : Host} {task : Task}
    {latest : Move} (follows : RunFollows history epoch run host task)
    (silent : ∀ other, latest ≠ .timer other) (other : latest ≠ .start run) :
    RunFollows (latest :: history) epoch run host task where
  waits := follows.waits.cons (silent run)
  works := follows.works.cons silent other
  asked := follows.asked
  left result returned := (follows.left result returned).imp_right (List.mem_cons_of_mem latest)

/-- What is told of a run stays so, one epoch later, after the timer of another run. -/
theorem RunFollows.timer {history : List Move} {epoch run fired : Nat} {host : Host} {task : Task}
    (follows : RunFollows history epoch run host task) (other : run ≠ fired) :
    RunFollows (.timer fired :: history) (epoch + 1) run host task where
  waits := follows.waits.cons fun same => other (Move.timer.inj same).symm
  works := follows.works.timer fired
  asked := follows.asked
  left result returned := (follows.left result returned).imp_right (List.mem_cons_of_mem _)

/-- A run that is asked for has a guest that waits for its thread. -/
theorem RunFollows.spawn {history : List Move} {epoch run : Nat} {task : Task}
    (follows : RunFollows history epoch run .absent task) (code : String) :
    RunFollows (.spawn run code :: history) epoch run .waiting (.queued code) := by
  have none := follows.asked rfl
  subst none
  have later : RunFollows (.spawn run code :: history) epoch run .absent .absent :=
    follows.cons nofun nofun
  exact ⟨later.waits, later.works, nofun, nofun⟩

/-- A guest that gets its thread runs, even if its host has returned by its timer. -/
theorem RunFollows.start {history : List Move} {epoch run : Nat} {host : Host} {code : String}
    (follows : RunFollows history epoch run host (.queued code)) :
    RunFollows (.start run :: history) epoch run host (.running code (epoch + 1)) := by
  refine ⟨follows.waits.cons nofun, taskFollows_start follows.works, ?_, ?_⟩
  · exact fun absent => nomatch follows.asked absent
  · intro result returned
    obtain ⟨_, ended⟩ | fired := follows.left result returned
    · cases ended
    · exact .inr (List.mem_cons_of_mem _ fired)

/-- A guest that runs comes to an end. -/
theorem RunFollows.finish {history : List Move} {epoch run deadline : Nat} {host : Host}
    {code : String} {latest : Move}
    (follows : RunFollows history epoch run host (.running code deadline))
    (silent : latest ≠ .timer run) (result : Except Failure Captured) :
    RunFollows (latest :: history) epoch run host (.ended result) := by
  refine ⟨follows.waits.cons silent, trivial, ?_, fun _ _ => .inl ⟨result, rfl⟩⟩
  exact fun absent => nomatch follows.asked absent

/-- A host that waits returns what its guest left. -/
theorem RunFollows.join {history : List Move} {epoch run : Nat} {result : Except Failure Captured}
    (follows : RunFollows history epoch run .waiting (.ended result)) :
    RunFollows (.join run :: history) epoch run (.returned result) (.ended result) := by
  refine ⟨?_, trivial, nofun, fun _ _ => .inl ⟨result, rfl⟩⟩
  exact fun fired => absurd fired (follows.waits.cons nofun)

/-- A host that waits returns when its timer fires, and leaves its guest as it is. -/
theorem RunFollows.fire {history : List Move} {epoch run : Nat} {task : Task}
    (follows : RunFollows history epoch run .waiting task) (limit : TimeSpan) :
    RunFollows (.timer run :: history) (epoch + 1) run (.returned (.error (.timedOut limit)))
      task :=
  ⟨fun _ => ⟨limit, rfl⟩, follows.works.timer run, nofun, fun _ _ => .inr List.mem_cons_self⟩

/-- The runs are as the moves tell after every further move. -/
theorem follows_step {history : List Move} {before after : Engine} {latest : Move}
    (follows : Follows history before) (taken : before.step? latest = some after) :
    Follows (latest :: history) after := by
  intro other
  have others := follows other
  rcases step_cases taken with ⟨run, code, rfl, absent, rfl⟩ | ⟨run, code, rfl, queued, rfl⟩ |
    ⟨run, actions, code, deadline, rfl, running, ahead, rfl⟩ |
    ⟨run, code, deadline, result, running, move, rfl⟩ | ⟨run, result, rfl, waiting, ended, rfl⟩ |
    ⟨run, rfl, waiting, rfl⟩
  · by_cases same : other = run
    · subst same
      rw [absent] at others
      simpa using others.spawn code
    · have kept : RunFollows (.spawn run code :: history) before.epoch other (before.host other)
          (before.task other) := others.cons nofun nofun
      simpa [Function.update_of_ne same] using kept
  · by_cases same : other = run
    · subst same
      rw [queued] at others
      simpa using others.start
    · have kept : RunFollows (.start run :: history) before.epoch other (before.host other)
          (before.task other) :=
        others.cons nofun fun started => same (Move.start.inj started).symm
      simpa [Function.update_of_ne same] using kept
  · exact others.cons nofun nofun
  · have silent : ∀ fired, latest ≠ .timer fired := by
      rcases move with rfl | ⟨-, actions, rfl⟩ <;> nofun
    have unstarted : latest ≠ .start other := by
      rcases move with rfl | ⟨-, actions, rfl⟩ <;> nofun
    by_cases same : other = run
    · subst same
      rw [running] at others
      simpa using others.finish (silent other) result
    · simpa [Function.update_of_ne same] using others.cons silent unstarted
  · by_cases same : other = run
    · subst same
      rw [waiting, ended] at others
      simpa [ended] using others.join
    · have kept : RunFollows (.join run :: history) before.epoch other (before.host other)
          (before.task other) := others.cons nofun nofun
      simpa [Function.update_of_ne same] using kept
  · by_cases same : other = run
    · subst same
      rw [waiting] at others
      simpa using others.fire before.settings.timeout
    · simpa [Function.update_of_ne same] using others.timer same

/-- The runs on an engine are as the moves tell that led to it. -/
theorem follows_after (program : Program) (settings : InterpreterSettings) :
    ∀ history engine, (idle program settings).after? history = some engine →
      Follows history engine := by
  apply Moves.after_induction
  · exact fun run => ⟨nofun, nofun, fun _ => rfl, nofun⟩
  · exact fun earlier before latest last led follows taken => follows_step follows taken

/-- The timer of a run fires once, so its guest runs on as given up. -/
theorem timed_out_of_timer {history : List Move} {engine : Engine}
    (follows : Follows history engine) {run : Nat} (fired : .timer run ∈ history) :
    ∃ limit, engine.host run = .returned (.error (.timedOut limit)) := by
  have told := (follows run).waits
  cases host : engine.host run with
  | absent => exact absurd fired (by rwa [host] at told)
  | waiting => exact absurd fired (by rwa [host] at told)
  | returned result =>
    rw [host] at told
    obtain ⟨limit, rfl⟩ := told fired
    exact ⟨limit, rfl⟩

/-- A guest that started has started before its timer fired, or the timer has fired since. -/
theorem firedSince_or_late {run : Nat} {history : List Move} (started : .start run ∈ history)
    (fired : .timer run ∈ history) : FiredSince run history ∨
      ∃ earlier, .start run :: earlier <:+ history ∧ .timer run ∈ earlier := by
  obtain ⟨later, earlier, rfl⟩ := List.append_of_mem fired
  rcases List.mem_append.mp started with after | before
  · obtain ⟨last, middle, rfl⟩ := List.append_of_mem after
    refine .inr ⟨middle ++ .timer run :: earlier, ⟨last, ?_⟩, ?_⟩
    · rw [List.append_assoc, List.cons_append]
    · exact List.mem_append_right middle List.mem_cons_self
  · obtain ⟨middle, first, rfl⟩ := List.append_of_mem ((List.mem_cons.mp before).resolve_left nofun)
    refine .inl ⟨later ++ .timer run :: middle, first, run, ?_, ?_⟩
    · rw [List.append_assoc, List.cons_append]
    · exact List.mem_append_right later List.mem_cons_self

/-- If no guest starts too late, the timer of every guest that was given up fired since it started,
so that its deadline is behind. -/
theorem stoppable_of_startsInTime {program : Program} {settings : InterpreterSettings}
    {history : List Move} {engine : Engine}
    (led : (idle program settings).after? history = some engine)
    (inTime : StartsInTime (idle program settings) history) : Stoppable engine := by
  intro run limit code deadline givenUp running
  have follows := follows_after program settings history engine led run
  have told := follows.works
  rw [running] at told
  obtain ⟨started, -, passed⟩ := told
  obtain ⟨_, ended⟩ | fired := follows.left _ givenUp
  · rw [running] at ended
    cases ended
  · obtain since | ⟨earlier, ⟨later, rfl⟩, late⟩ := firedSince_or_late started fired
    · exact passed.mpr since
    · rw [after?, Moves.after_append] at led
      obtain ⟨middle, reached, -⟩ := Option.bind_eq_some_iff.mp led
      exact absurd late (inTime run earlier ⟨later, rfl⟩ (Option.isSome_of_eq_some reached))

/-- A guest that starts after its own timer fired has a deadline that is ahead. -/
theorem not_stoppable_of_late {program : Program} {settings : InterpreterSettings} {run : Nat}
    {earlier : List Move} {engine : Engine}
    (led : (idle program settings).after? (.start run :: earlier) = some engine)
    (late : .timer run ∈ earlier) : ¬ Stoppable engine := by
  intro stoppable
  have follows := follows_after program settings _ engine led
  obtain ⟨limit, givenUp⟩ := timed_out_of_timer follows (List.mem_cons_of_mem _ late)
  obtain ⟨before, -, taken⟩ := Moves.after_cons.mp led
  rcases step_cases taken with ⟨_, code, move, _⟩ | ⟨started, code, move, queued, rfl⟩ |
    ⟨_, actions, code, deadline, move, _⟩ | ⟨_, code, deadline, result, _, move, _⟩ |
    ⟨_, result, move, _⟩ | ⟨_, move, _⟩
  · cases move
  · cases move
    have behind := stoppable run limit code (before.epoch + 1) givenUp (Function.update_self ..)
    exact absurd behind (Nat.not_succ_le_self before.epoch)
  · cases move
  · rcases move with move | ⟨-, actions, move⟩ <;> cases move
  · cases move
  · cases move

/-- The next check of a guest ends it exactly if its deadline is behind. -/
theorem check_ends_iff {engine next : Engine} {run actions deadline : Nat} {code : String}
    (running : engine.task run = .running code deadline)
    (taken : engine.step? (.check run actions) = some next) :
    (∃ result, next.task run = .ended result) ↔ deadline ≤ engine.epoch := by
  rcases step_cases taken with ⟨_, _, move, _⟩ | ⟨_, _, move, _⟩ |
    ⟨_, _, _, _, move, same, ahead, rfl⟩ | ⟨_, _, _, result, same, move, rfl⟩ |
    ⟨_, _, move, _⟩ | ⟨_, move, _⟩
  · cases move
  · cases move
  · cases move
    cases running.symm.trans same
    refine iff_of_false ?_ (Nat.not_le_of_lt ahead)
    rintro ⟨result, ended⟩
    cases running.symm.trans ended
  · obtain move | ⟨passed, _, move⟩ := move
    · cases move
    · cases move
      cases running.symm.trans same
      exact iff_of_true ⟨result, Function.update_self ..⟩ passed
  · cases move
  · cases move

/-- The next check of a guest interrupts it exactly if some timer has fired since it started, and
in every state of a history the guests that were given up are interrupted by their next checks
exactly if none of them starts after the timer of its own host. -/
theorem deadlines_behind_iff_starts_in_time (program : Program) (settings : InterpreterSettings)
    (history : List Move) :
    (∀ engine, (idle program settings).after? history = some engine →
      ∀ run code deadline, engine.task run = .running code deadline →
        (deadline ≤ engine.epoch ↔ FiredSince run history) ∧
        ∀ actions next, engine.step? (.check run actions) = some next →
          ((∃ result, next.task run = .ended result) ↔ deadline ≤ engine.epoch)) ∧
    ((∀ earlier engine, earlier <:+ history →
        (idle program settings).after? earlier = some engine → Stoppable engine) ↔
      StartsInTime (idle program settings) history) := by
  refine ⟨?_, ?_, ?_⟩
  · intro engine led run code deadline running
    have told := (follows_after program settings history engine led run).works
    rw [running] at told
    exact ⟨told.2.2, fun actions next taken => check_ends_iff running taken⟩
  · intro stoppable run earlier part reached late
    obtain ⟨engine, led⟩ := Option.isSome_iff_exists.mp reached
    exact not_stoppable_of_late led late (stoppable _ engine part led)
  · intro inTime earlier engine part led
    exact stoppable_of_startsInTime led fun run before inner => inTime run before (inner.trans part)

/-- A program that never ends, whose guest gets its thread when its host has given it up: no check
of the epoch ends it. -/
theorem late_guest_unstoppable :
    ¬ ∀ program settings history engine, (idle program settings).after? history = some engine →
      ∀ run limit code deadline, engine.host run = .returned (.error (.timedOut limit)) →
        engine.task run = .running code deadline → deadline ≤ engine.epoch := by
  intro behind
  have passed := behind { Program.bare with entry := .proper, ending := .spins } {}
    [.start 0, .timer 0, .spawn 0 ""] _ rfl 0 _ "" 2 rfl rfl
  revert passed
  decide

end Scratchpad.Guest.Engine
