import Scratchpad.Proofs.Playground.EmbeddedRun
import Scratchpad.Proofs.Playground.SharedLoad

/-!
# Runs in a ready interpreter

The stage of an interpreter turns to ready one step before its program is kept, and a run looks for
the program and not at the stage. So a ready interpreter serves the runs that begin in it exactly if
no caller stands between these two steps: `ready_serves_iff_kept`. From the step that keeps the
program on every run finds it, whatever the other callers do.
-/
namespace Scratchpad

/-- Whether a run found an interpreter. -/
def SourceRun.Available (run : SourceRun) : Prop :=
  ∀ stage, run.failure ≠ some (.unavailable stage)

/-- Whether a caller has found a program for its run, and the run did not fail for the want of it. -/
def Position.Served : Position → Prop
  | .executing _ _ => True
  | .delivering _ run | .returned (.ran run) => run.Available
  | _ => False

namespace Callers

/-- Whether a caller that loads a program has turned the stage to ready and not kept it yet. -/
def AboutToKeep (callers : Callers) : Prop :=
  ∃ caller asking program, callers.position caller = .loading asking (.settled (some program))

/-- What becomes of a run of source text that a caller begins, whatever all callers do then. -/
structure ServesRun (callers : Callers) (caller : Nat) (code : String) : Prop where
  /-- Once it has looked for the program, the program runs its code. -/
  reaches : ∀ later last, callers.after? (later ++ [.call caller (.run code)]) = some last →
    last.position caller = .called (.run code) ∨ ⟨caller, .executed code⟩ ∈ last.log
  /-- It never returns that there is no interpreter. -/
  available : ∀ later last stage,
    callers.after? (later ++ [.call caller (.run code)]) = some last →
    last.position caller ≠ .returned (.ran (.unavailable stage))
  /-- It returns as a run of the program if it is left alone. -/
  returns : ∃ count last program, callers.outcome = some program ∧
    callers.after? (List.replicate count (.go caller) ++ [.call caller (.run code)]) = some last ∧
    last.position caller = .returned
      (.ran (.ofProgram program callers.runner.embedded.settings code))

/-- Whether an interpreter serves all runs that begin now. -/
def ServesRuns (callers : Callers) : Prop :=
  ∀ caller code, callers.position caller = .absent → callers.ServesRun caller code

/-! ## Runs of a program -/

/-- A run of a program found an interpreter. -/
theorem available_ofProgram (program : Guest.Program) (settings : InterpreterSettings)
    (code : String) : (SourceRun.ofProgram program settings code).Available := by
  intro stage
  rw [SourceRun.ofProgram]
  cases result : program.run settings code with
  | error failure =>
    intro same
    rw [SourceRun.ofResult, Option.some.injEq] at same
    exact program.run_reached settings code stage (by rw [result, same])
  | ok captured =>
    rw [SourceRun.ofResult]
    intro same
    split at same
    · cases same
    · exact SourceRun.cause_reached _ _ _ (Option.some.inj same)

/-- A caller moves no other caller. -/
theorem position_go_of_ne {before after : Callers} {caller other : Nat}
    (goes : before.Goes caller after) (different : other ≠ caller) :
    after.position other = before.position other := by
  cases goes with
  | load asking point position => exact position_load_of_ne before asking point different
  | hand line lines run position =>
    rw [position_place_of_ne _ _ different, position_hand]
  | _ => exact position_place_of_ne _ _ different

/-- What was done stays done. -/
theorem log_step {before after : Callers} {move : Move} (taken : before.step? move = some after)
    {event : Event} (done : event ∈ before.log) : event ∈ after.log := by
  rcases step_noted taken with ⟨log, -⟩ | ⟨latest, log, -⟩
  · exact log ▸ done
  · exact log ▸ List.mem_cons_of_mem latest done

/-- Handing a line to a sink undoes nothing. -/
theorem log_hand (callers : Callers) (caller : Nat) (line : SinkLine) {event : Event}
    (done : event ∈ callers.log) : event ∈ (callers.hand caller line).log := by
  obtain ⟨-, ⟨log, -⟩ | ⟨latest, log, -⟩⟩ := spares_hand callers caller line
  · exact log ▸ done
  · exact log ▸ List.mem_cons_of_mem latest done

/-- A caller that has not called can begin a run. -/
theorem after_begin {callers : Callers} {caller : Nat} (absent : callers.position caller = .absent)
    (code : String) : callers.after? [.call caller (.run code)] =
      some (callers.place caller (.called (.run code))) := by
  refine Moves.after_cons.mpr ⟨callers, rfl, ?_⟩
  simp only [step?, absent]

/-- A run that is left alone returns what the interpreter has for its code. -/
theorem run_returns {callers : Callers} {caller : Nat} (absent : callers.position caller = .absent)
    (code : String) : ∃ count last,
      callers.after? (List.replicate count (.go caller) ++ [.call caller (.run code)]) =
        some last ∧
      last.position caller = .returned (.ran (callers.runner.embedded.runSource code)) := by
  obtain ⟨count, last, led, -, -, returned⟩ :=
    after_run_alone (callers.place caller (.called (.run code))) (position_place ..)
  exact ⟨count, last, Moves.after_trans (after_begin absent code) led, returned⟩

/-- A program that was kept stays kept. -/
theorem program_step {outcome : Option Guest.Program} {before after : Callers} {move : Move}
    {progress : Progress} {program : Guest.Program} (follows : Follows outcome before progress)
    (found : before.life.program? = some program) (taken : before.step? move = some after) :
    after.life.program? = some program := by
  rcases load_or_spares taken with ⟨caller, asking, point, position, rfl⟩ | ⟨life, -⟩
  · have loading := follows.seated.loading caller asking point position
    obtain ⟨⟨other, finished⟩, -⟩ := follows.program found
    cases loading.symm.trans finished
  · rw [life, found]

/-- What holds of a caller that began a run while the program was kept. -/
structure Underway (program : Guest.Program) (caller : Nat) (code : String) (callers : Callers) :
    Prop where
  kept : callers.life.program? = some program
  run : callers.position caller = .called (.run code) ∨
    (callers.position caller).Served ∧ ⟨caller, .executed code⟩ ∈ callers.log

namespace Underway

variable {program : Guest.Program} {caller : Nat} {code : String} {before after : Callers}

/-- A step of the run itself leads it on. -/
theorem go (underway : Underway program caller code before) (goes : before.Goes caller after) :
    (after.position caller).Served ∧ ⟨caller, .executed code⟩ ∈ after.log := by
  have run := underway.run
  cases goes with
  | execute other found position given =>
    rw [position] at run
    obtain same | ⟨served, -⟩ := run
    · cases same
      rw [position_place]
      exact ⟨trivial, List.mem_cons_self⟩
    · exact served.elim
  | refuse other position missing => cases underway.kept.symm.trans missing
  | conclude found other ended position same =>
    rw [position] at run
    obtain waiting | ⟨-, done⟩ := run
    · cases waiting
    · rw [position_place, same]
      exact ⟨available_ofProgram found before.runner.embedded.settings other, done⟩
  | hand line lines ended position =>
    rw [position] at run
    obtain waiting | ⟨served, done⟩ := run
    · cases waiting
    · rw [position_place]
      exact ⟨served, log_hand before caller line done⟩
  | deliver ended position =>
    rw [position] at run
    obtain waiting | ⟨served, done⟩ := run
    · cases waiting
    · exact ⟨(before.position_place caller (.returned (.ran ended))).symm ▸ served,
        List.mem_cons_of_mem _ done⟩
  -- The other steps are not steps of a run that found the program.
  | _ => simp_all [Position.Served]

/-- Whoever makes a move, the run stays underway. -/
theorem step {outcome : Option Guest.Program} {progress : Progress} {move : Move}
    (underway : Underway program caller code before) (follows : Follows outcome before progress)
    (taken : before.step? move = some after) : Underway program caller code after := by
  refine ⟨program_step follows underway.kept taken, ?_⟩
  have kept (same : after.position caller = before.position caller) :
      after.position caller = .called (.run code) ∨
        (after.position caller).Served ∧ ⟨caller, .executed code⟩ ∈ after.log := by
    rw [same]
    exact underway.run.imp_right (And.imp_right (log_step taken))
  rcases step_cases taken with ⟨other, call, rfl, position, rfl⟩ | ⟨other, rfl, goes⟩
  · refine kept (position_place_of_ne before _ ?_)
    rintro rfl
    have run := underway.run
    simp [position, Position.Served] at run
  · by_cases same : other = caller
    · subst same
      exact .inr (underway.go goes)
    · exact kept (position_go_of_ne goes (Ne.symm same))

end Underway

section Fresh

variable {settings : InterpreterSettings} {fetched : Guest.Fetched}
  {heard : Option (List SinkLine)} {output : Transcript} {history : List Move} {callers : Callers}

/-- A run that a caller begins while the program is kept is underway ever after. -/
theorem underway_after
    (reached : (fresh settings fetched heard output).after? history = some callers)
    {program : Guest.Program} (kept : callers.life.program? = some program) {caller : Nat}
    (absent : callers.position caller = .absent) (code : String) :
    ∀ later last, callers.after? (later ++ [.call caller (.run code)]) = some last →
      Underway program caller code last := by
  have begins := after_begin absent code
  have begun := Moves.after_trans reached begins
  intro later last led
  rw [after?, Moves.after_append, ← after?, begins, Option.bind_some] at led
  revert later last
  apply Moves.after_induction
  · exact ⟨kept, .inl (position_place ..)⟩
  · intro earlier before latest last led underway taken
    obtain ⟨progress, follows⟩ :=
      follows_after settings fetched heard output _ before (Moves.after_trans begun led)
    exact underway.step follows taken

/-- An interpreter whose program is kept serves all runs. -/
theorem servesRuns_of_kept
    (reached : (fresh settings fetched heard output).after? history = some callers)
    {program : Guest.Program} (kept : callers.life.program? = some program) :
    callers.ServesRuns := by
  intro caller code absent
  have underway := underway_after reached kept absent code
  refine ⟨?_, ?_, ?_⟩
  · intro later last led
    exact (underway later last led).run.imp_right And.right
  · intro later last stage led returned
    obtain waiting | ⟨served, -⟩ := (underway later last led).run
    · cases returned.symm.trans waiting
    · rw [returned] at served
      exact served stage rfl
  · obtain ⟨progress, follows⟩ := follows_after settings fetched heard output _ callers reached
    obtain ⟨count, last, led, returned⟩ := run_returns absent code
    have found : callers.runner.embedded.life.program? = some program := kept
    rw [Embedded.runSource, found] at returned
    exact ⟨count, last, program, follows.same.trans (follows.program kept).2, led, returned⟩

/-- Nobody has called from some caller on. -/
theorem exists_absent (settings : InterpreterSettings) (fetched : Guest.Fetched)
    (heard : Option (List SinkLine)) (output : Transcript) :
    ∀ history callers, (fresh settings fetched heard output).after? history = some callers →
      ∃ bound, ∀ caller, bound ≤ caller → callers.position caller = .absent := by
  apply Moves.after_induction
  · exact ⟨0, fun _ _ => rfl⟩
  · rintro earlier before latest last led ⟨bound, absent⟩ taken
    rcases step_cases taken with ⟨moved, call, rfl, -, rfl⟩ | ⟨moved, rfl, goes⟩
    · refine ⟨max bound (moved + 1), fun caller above => ?_⟩
      rw [position_place_of_ne before _ (by omega)]
      exact absent caller (by omega)
    · refine ⟨max bound (moved + 1), fun caller above => ?_⟩
      rw [position_go_of_ne goes (by omega)]
      exact absent caller (by omega)

/-- A ready interpreter has kept its program, or a caller is about to do so. -/
theorem kept_or_aboutToKeep {outcome : Option Guest.Program} {progress : Progress}
    (follows : Follows outcome callers progress) (ready : callers.life.stage = .ready) :
    (∃ program, callers.life.program? = some program) ∨ callers.AboutToKeep := by
  have stage := follows.stage.symm.trans ready
  cases progress with
  | untouched => cases stage
  | loading caller point =>
    cases point with
    | settled found =>
      cases found with
      | none => cases stage
      | some program =>
        obtain ⟨asking, position⟩ := follows.seated.held caller _ rfl
        exact .inr ⟨caller, asking, program, position⟩
    | _ => cases stage
  | finished caller =>
    cases outcome with
    | none => cases stage
    | some program => exact .inl ⟨program, by rw [Lifecycle.program?, follows.cell]; rfl⟩

/-- While a caller is about to keep the program, the stage is ready and there is none to run. -/
theorem ready_of_aboutToKeep {outcome : Option Guest.Program} {progress : Progress}
    (follows : Follows outcome callers progress) (about : callers.AboutToKeep) :
    callers.life.stage = .ready ∧ callers.life.program? = none := by
  obtain ⟨caller, asking, program, position⟩ := about
  obtain rfl := follows.seated.loading caller asking _ position
  refine ⟨follows.stage, ?_⟩
  rw [Lifecycle.program?, follows.cell]
  rfl

/-- A run that finds no program in a ready interpreter returns that a ready one is not available. -/
theorem refused_run_ready {caller : Nat} (absent : callers.position caller = .absent)
    (code : String) (ready : callers.life.stage = .ready) (missing : callers.life.program? = none) :
    ∃ count last,
      callers.after? (List.replicate count (.go caller) ++ [.call caller (.run code)]) =
        some last ∧
      last.position caller = .returned (.ran (.unavailable .ready)) := by
  obtain ⟨count, last, led, returned⟩ := run_returns absent code
  have empty : callers.runner.embedded.life.program? = none := missing
  have refusal : callers.runner.embedded.runSource code = .unavailable .ready := by
    rw [Embedded.runSource, empty, ← ready]
    rfl
  exact ⟨count, last, led, refusal ▸ returned⟩

/-- An interpreter that is ready serves the runs that begin exactly if no caller has still to keep
its program. Until then the run control is enabled, and a run that is left alone returns that the
ready interpreter is not available. -/
theorem ready_serves_iff_kept
    (reached : (fresh settings fetched heard output).after? history = some callers) :
    ((callers.life.stage = .ready → callers.ServesRuns) ↔ ¬callers.AboutToKeep) ∧
    (callers.AboutToKeep → callers.life.stage = .ready ∧
      Runner.isLoading callers.runner = false ∧
      ∀ caller code, callers.position caller = .absent → ∃ count last,
        callers.after? (List.replicate count (.go caller) ++ [.call caller (.run code)]) =
          some last ∧
        last.position caller = .returned (.ran (.unavailable .ready))) := by
  obtain ⟨progress, follows⟩ := follows_after settings fetched heard output history callers reached
  refine ⟨⟨?_, ?_⟩, ?_⟩
  · intro serves about
    obtain ⟨ready, missing⟩ := ready_of_aboutToKeep follows about
    obtain ⟨caller, absent⟩ := exists_absent settings fetched heard output history callers reached
    have unseen := absent caller (Nat.le_refl caller)
    obtain ⟨count, last, led, returned⟩ := refused_run_ready unseen "" ready missing
    exact (serves ready caller "" unseen).available _ last .ready led returned
  · intro settled ready
    obtain ⟨program, kept⟩ | about := kept_or_aboutToKeep follows ready
    · exact servesRuns_of_kept reached kept
    · exact absurd about settled
  · intro about
    obtain ⟨ready, missing⟩ := ready_of_aboutToKeep follows about
    have pending : Runner.isLoading callers.runner = callers.life.stage.isPending := rfl
    refine ⟨ready, by rw [pending, ready]; rfl, fun caller code absent => ?_⟩
    exact refused_run_ready absent code ready missing

end Fresh

/-- An interpreter that can be loaded. -/
def loadable : Guest.Fetched := .image (.program { Guest.Program.bare with entry := .proper })

/-- A caller asks for that interpreter and keeps it. -/
def keptHistory : List Move := List.replicate 6 (.go 0) ++ [.call 0 (.ask .prepare)]

/-- The interpreter is ready and serves all runs. -/
theorem ready_serves_iff_kept_loaded :
    ∃ callers, (fresh {} loadable none "").after? keptHistory = some callers ∧
      callers.life.stage = .ready ∧ callers.ServesRuns := by
  obtain ⟨callers, reached, ready, cell⟩ : ∃ callers,
      (fresh {} loadable none "").after? keptHistory = some callers ∧
      callers.life.stage = .ready ∧ callers.life.cell.isSome = true := ⟨_, rfl, rfl, rfl⟩
  obtain ⟨progress, follows⟩ := follows_after {} loadable none "" keptHistory callers reached
  have settled : ¬callers.AboutToKeep := by
    intro about
    obtain ⟨caller, asking, program, position⟩ := about
    obtain rfl := follows.seated.loading caller asking _ position
    rw [follows.cell] at cell
    cases cell
  exact ⟨callers, reached, ready, (ready_serves_iff_kept reached).1.mpr settled ready⟩

/-- A caller asks for that interpreter and comes as far as to turn its stage to ready. -/
def settledHistory : List Move := List.replicate 5 (.go 0) ++ [.call 0 (.ask .prepare)]

/-- The run control is enabled, and a run returns that the ready interpreter is not available. -/
theorem ready_run_refused :
    ∃ callers, (fresh {} loadable none "").after? settledHistory = some callers ∧
      callers.life.stage = .ready ∧ Runner.isLoading callers.runner = false ∧
      ∃ last, callers.after? [.go 1, .go 1, .call 1 (.run "print(1)")] = some last ∧
        last.position 1 = .returned (.ran (.unavailable .ready)) :=
  ⟨_, rfl, rfl, rfl, _, rfl, rfl⟩

end Callers

end Scratchpad
