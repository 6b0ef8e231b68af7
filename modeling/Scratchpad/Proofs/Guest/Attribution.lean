import Scratchpad.Guest.Conduct

/-!
# What is blamed on the linear memory

One flag remembers the refusals of linear memory and of tables alike, and every end but a return
and the end of the time asks it first. A run is therefore said to have reached the limit of its
linear memory if it did, or if it asked for a table that was too large. What is said is right, and a
run whose memory stayed within its limit ends as it would have, exactly if the flag was not asked
after the refusal of a table alone.
-/
namespace Scratchpad.Guest

/-- No way to stop calls for the report that a request was refused. -/
theorem Stop.calledFor_ne_refused (settings : InterpreterSettings) (state : State) (stop : Stop) :
    stop.calledFor settings state ≠ .error (refusedFailure settings) := by
  cases stop with
  | interrupted => exact nofun
  | seen ended => cases ended <;> exact nofun

/-- A program that cannot be started is not said to have reached its limit in a run. -/
theorem Program.opened_ne_refused (program : Program) (settings : InterpreterSettings) :
    program.opened settings ≠ .error (refusedFailure settings) := by
  unfold opened
  split
  · nofun
  · dsimp only
    split
    · intro same
      have texts := Failure.memoryLimit.inj (Except.error.inj same)
      have first := congrArg (·.toList.head?) texts
      simp [String.toList_append] at first
    · split <;> nofun

namespace Reactive

namespace Run

variable {guest : Reactive} {settings : InterpreterSettings} {code : String}

/-- A run asked for more linear memory than it may have. -/
def AskedTooMuchMemory (run : guest.Run settings code) : Prop :=
  ∃ desired, .memory desired ∈ run.requests ∧ settings.maxMemory < desired

/-- A run asked for a larger table than it may have. -/
def AskedTooLargeTable (run : guest.Run settings code) : Prop :=
  ∃ desired, .table desired ∈ run.requests ∧ maxTableElements < desired

/-- The limit of the linear memory is blamed only where it was reached, and where it was not, a run
reports what the way in which it was stopped calls for. -/
structure BlamesRightly (run : guest.Run settings code) : Prop where
  blamed : run.result = .error (refusedFailure settings) → run.AskedTooMuchMemory
  spared : ¬ run.AskedTooMuchMemory → run.result = run.stop.calledFor settings run.last

/-- A request of a run was refused exactly if it asked for too much memory or too large a table. -/
theorem exceeded_iff (run : guest.Run settings code) :
    (∃ growth ∈ run.requests, growth.Exceeds settings) ↔
      run.AskedTooMuchMemory ∨ run.AskedTooLargeTable := by
  constructor
  · rintro ⟨growth, asked, exceeds⟩
    cases growth with
    | memory desired => exact .inl ⟨desired, asked, exceeds⟩
    | table desired => exact .inr ⟨desired, asked, exceeds⟩
  · rintro (⟨desired, asked, exceeds⟩ | ⟨desired, asked, exceeds⟩)
    · exact ⟨.memory desired, asked, exceeds⟩
    · exact ⟨.table desired, asked, exceeds⟩

/-- A run reports what its stop calls for, unless that asks the limiter and a request was
refused. -/
theorem result_cases (run : guest.Run settings code) :
    run.stop.asksLimiter = true ∧ (run.AskedTooMuchMemory ∨ run.AskedTooLargeTable) ∧
        run.result = .error (refusedFailure settings) ∨
      ¬ (run.stop.asksLimiter = true ∧ (run.AskedTooMuchMemory ∨ run.AskedTooLargeTable)) ∧
        run.result = run.stop.calledFor settings run.last := by
  rw [result, Stop.result_eq, ← and_assoc, ← run.exceeded_iff, ← run.tripped_iff]
  by_cases asked : run.stop.asksLimiter = true ∧ run.last.limiter.tripped = true
  · exact .inl ⟨asked, if_pos asked⟩
  · exact .inr ⟨asked, if_neg asked⟩

/-- The limit of the linear memory is reported exactly if the limiter is asked after the refusal of
a request of either kind. -/
theorem refused_iff (run : guest.Run settings code) :
    run.result = .error (refusedFailure settings) ↔
      run.stop.asksLimiter = true ∧ (run.AskedTooMuchMemory ∨ run.AskedTooLargeTable) := by
  rcases run.result_cases with ⟨asked, tooMuch, refused⟩ | ⟨unasked, called⟩
  · exact iff_of_true refused ⟨asked, tooMuch⟩
  · refine iff_of_false ?_ unasked
    rw [called]
    exact Stop.calledFor_ne_refused settings run.last run.stop

/-- A run blames rightly unless the limiter is asked after the refusal of tables alone. -/
theorem blamesRightly_iff (run : guest.Run settings code) :
    run.BlamesRightly ↔ ¬ (run.stop.asksLimiter = true ∧ run.AskedTooLargeTable ∧
      ¬ run.AskedTooMuchMemory) := by
  constructor
  · rintro right ⟨asked, tooLarge, within⟩
    exact within (right.blamed (run.refused_iff.mpr ⟨asked, .inr tooLarge⟩))
  · intro notTableAlone
    refine ⟨fun refused => ?_, fun within => ?_⟩
    · obtain ⟨asked, tooMuch | tooLarge⟩ := run.refused_iff.mp refused
      · exact tooMuch
      · exact Classical.byContradiction fun within => notTableAlone ⟨asked, tooLarge, within⟩
    · rcases run.result_cases with ⟨asked, tooMuch | tooLarge, -⟩ | ⟨-, called⟩
      · exact absurd tooMuch within
      · exact absurd ⟨asked, tooLarge, within⟩ notTableAlone
      · exact called

end Run

end Reactive

/-- The limit of the linear memory can be reported of a guest exactly by runs in which the limiter
is asked after the refusal of a request of either kind, and it is rightly blamed or spared exactly
by the runs in which the limiter is not asked after the refusal of tables alone. -/
theorem memory_rightly_blamed_iff (guest : Reactive) (settings : InterpreterSettings)
    (code : String) :
    (guest.Reports settings code (.error (refusedFailure settings)) ↔
      ∃ run : guest.Run settings code, run.stop.asksLimiter = true ∧
        (run.AskedTooMuchMemory ∨ run.AskedTooLargeTable)) ∧
    ∀ run : guest.Run settings code, run.BlamesRightly ↔
      ¬ (run.stop.asksLimiter = true ∧ run.AskedTooLargeTable ∧ ¬ run.AskedTooMuchMemory) := by
  refine ⟨⟨?_, ?_⟩, fun run => run.blamesRightly_iff⟩
  · generalize reported : Except.error (refusedFailure settings) = result
    rintro (failed | - | run)
    · cases reported
      exact absurd failed (Program.opened_ne_refused _ settings)
    · cases reported
    · exact ⟨run, run.refused_iff.mp reported.symm⟩
  · rintro ⟨run, refused⟩
    rw [← run.refused_iff.mpr refused]
    exact .ran run

/-- A program that prints an exception, asks for a table of one element too many, and exits with
status one. -/
def collector : Program where
  memory := some 1
  table := some 0
  unresolved := false
  entry := .proper
  actions _ := [.write .error (Text.Utf8.bytes "ValueError: too few\n"), .growTable 10001 false]
  ending := .exits 1

/-- The program asks for no memory, and the limit of its memory is reported in place of its
exception. -/
theorem refused_table_blames_memory :
    ¬ ∀ (program : Program) (settings : InterpreterSettings) (code : String) (opened : State),
      program.opened settings = .ok opened →
      program.run settings code = .error (refusedFailure settings) →
      ∃ desired, .memory desired ∈ opened.requests (program.actions (arguments code)) ∧
        settings.maxMemory < desired := by
  intro honest
  have requests : ∀ opened, collector.opened {} = .ok opened →
      opened.requests (collector.actions (arguments "")) = [.table 10001] := by
    rintro _ ⟨⟩
    decide +kernel
  obtain ⟨desired, asked, -⟩ := honest collector {} "" _ rfl rfl
  rw [requests _ rfl] at asked
  simp at asked

end Scratchpad.Guest
