import Scratchpad.Playground.Runner
import Scratchpad.Remote.Traffic

/-!
# The loading flag of a remote service

Every run raises the flag when it enters and lowers it when it ends, and all runs share one flag.
The flag therefore tells whether any run has ended since the last one entered, which is not whether
a run is under way: a run that ends before another leaves the other one unannounced. The flag covers
a history exactly if every run of it that ends was the only one under way.
-/
namespace Scratchpad.Traffic

/-- Some run entered, and none has ended since. -/
def EnteredLast (history : List Move) : Prop :=
  ∃ later run code earlier, history = later ++ .enter run code :: earlier ∧
    ∀ move ∈ later, move.ends = false

/-- If any run is under way, the run control is disabled. -/
def Covered (traffic : Traffic) : Prop :=
  (∃ run, traffic.InFlight run) → Runner.isLoading traffic.remote = true

/-- Whenever a run of a history ends, no other run is under way. -/
def EndsAlone (start : Traffic) (history : List Move) : Prop :=
  ∀ latest earlier, latest :: earlier <:+ history → latest.ends = true →
    ∀ traffic, start.after? (latest :: earlier) = some traffic → ∀ run, ¬ traffic.InFlight run

/-- The runs of an earlier part of a history end alone if all runs of the history do. -/
theorem EndsAlone.of_suffix {start : Traffic} {earlier history : List Move}
    (alone : EndsAlone start history) (part : earlier <:+ history) : EndsAlone start earlier :=
  fun latest rest inner => alone latest rest (inner.trans part)

/-- Entering a run makes it the last to enter. -/
theorem enteredLast_enter (run : Nat) (code : String) (history : List Move) :
    EnteredLast (.enter run code :: history) :=
  ⟨[], run, code, history, rfl, nofun⟩

/-- Sending a request neither enters nor ends a run. -/
theorem enteredLast_send (run : Nat) (history : List Move) :
    EnteredLast (.send run :: history) ↔ EnteredLast history := by
  constructor
  · rintro ⟨later, entered, code, earlier, split, quiet⟩
    cases later with
    | nil => cases split
    | cons latest later =>
      rw [List.cons_append, List.cons.injEq] at split
      exact ⟨later, entered, code, earlier, split.2, fun move among =>
        quiet move (List.mem_cons_of_mem latest among)⟩
  · rintro ⟨later, entered, code, earlier, split, quiet⟩
    refine ⟨.send run :: later, entered, code, earlier, by rw [split]; rfl, ?_⟩
    intro move among
    rcases List.mem_cons.mp among with rfl | among
    · rfl
    · exact quiet move among

/-- After an end, no run has entered since. -/
theorem not_enteredLast_end {move : Move} (ending : move.ends = true) (history : List Move) :
    ¬ EnteredLast (move :: history) := by
  rintro ⟨later, entered, code, earlier, split, quiet⟩
  cases later with
  | nil =>
    cases split
    cases ending
  | cons latest later =>
    rw [List.cons_append, List.cons.injEq] at split
    have silent := quiet latest List.mem_cons_self
    rw [← split.1, ending] at silent
    cases silent

/-- A run is under way after another came to a point exactly if it was before. -/
theorem inFlight_advance_of_ne (traffic : Traffic) {run other : Nat} (point : RequestPoint)
    (remote : Remote)
    (different : other ≠ run) :
    (traffic.advance run point remote).InFlight other ↔ traffic.InFlight other := by
  rw [InFlight, InFlight, point_advance_of_ne traffic point remote different]

/-- Sending a request leaves the runs that are under way as they are. -/
theorem inFlight_send (traffic : Traffic) {run : Nat} {code : String} (delivery : Delivery)
    (remote : Remote) (entered : traffic.point run = .entered code) (other : Nat) :
    (traffic.advance run (.outstanding delivery) remote).InFlight other ↔
      traffic.InFlight other := by
  by_cases same : other = run
  · subst same
    rw [InFlight, InFlight, point_advance, entered]
    rfl
  · exact inFlight_advance_of_ne traffic _ _ same

/-- The flag is up exactly if a run entered and none has ended since. -/
theorem loading_iff_enteredLast (endpoint : String) (deliveries : List Delivery) :
    ∀ history traffic, (idle endpoint deliveries).after? history = some traffic →
      (Runner.isLoading traffic.remote = true ↔ EnteredLast history) := by
  apply Moves.after_induction
  · constructor
    · intro loading
      cases loading
    · rintro ⟨later, run, code, earlier, split, quiet⟩
      simp at split
  · intro earlier before latest last led ih taken
    rcases step_cases taken with ⟨run, code, rfl, waiting, rfl⟩ | ⟨run, code, rfl, entered, rfl⟩ |
      ⟨run, shown, ending, flying, rfl⟩
    · exact ⟨fun _ => enteredLast_enter run code earlier, fun _ => rfl⟩
    · rw [enteredLast_send]
      exact ih
    · constructor
      · intro loading
        cases loading
      · exact fun entered => absurd entered (not_enteredLast_end ending earlier)

/-- One move keeps the runs covered, unless it ends a run while another is under way. -/
theorem covered_step {before after : Traffic} {move : Move} (taken : before.step? move = some after)
    (covered : before.Covered) (alone : move.ends = true → ∀ run, ¬ after.InFlight run) :
    after.Covered := by
  rcases step_cases taken with ⟨run, code, rfl, waiting, rfl⟩ | ⟨run, code, rfl, entered, rfl⟩ |
    ⟨run, shown, ending, flying, rfl⟩
  · intro flying
    rfl
  · rintro ⟨other, flying⟩
    exact covered ⟨other, (inFlight_send before _ _ entered other).mp flying⟩
  · rintro ⟨other, flying⟩
    exact absurd flying (alone ending other)

/-- A history whose runs end alone leaves the runs covered. -/
theorem covered_of_endsAlone (endpoint : String) (deliveries : List Delivery) :
    ∀ history traffic, (idle endpoint deliveries).after? history = some traffic →
      EndsAlone (idle endpoint deliveries) history → traffic.Covered := by
  apply Moves.after_induction
  · rintro alone ⟨run, flying⟩
    cases flying
  · intro earlier before latest last led ih taken alone
    refine covered_step taken (ih (alone.of_suffix (List.suffix_cons latest earlier))) ?_
    intro ending
    exact alone latest earlier (List.suffix_refl _) ending last
      (Moves.after_cons.mpr ⟨before, led, taken⟩)

/-- An end that leaves a run under way leaves it uncovered. -/
theorem not_inFlight_of_covered {start traffic : Traffic} {latest : Move} {earlier : List Move}
    (ending : latest.ends = true) (reached : start.after? (latest :: earlier) = some traffic)
    (covered : traffic.Covered) (run : Nat) : ¬ traffic.InFlight run := by
  intro flying
  have loading := covered ⟨run, flying⟩
  obtain ⟨before, led, taken⟩ := Moves.after_cons.mp reached
  rcases step_cases taken with ⟨_, code, rfl, waiting, rfl⟩ | ⟨_, code, rfl, entered, rfl⟩ |
    ⟨ended, shown, _, _, rfl⟩
  · cases ending
  · cases ending
  · cases loading

/-- The flag tells whether a run has ended since the last one entered, and it covers every state of
a history exactly if each run that ends is the only one under way. -/
theorem loading_covers_iff_ends_alone (endpoint : String) (deliveries : List Delivery)
    (history : List Move) :
    (∀ traffic, (idle endpoint deliveries).after? history = some traffic →
      (Runner.isLoading traffic.remote = true ↔ EnteredLast history)) ∧
    ((∀ earlier traffic, earlier <:+ history →
        (idle endpoint deliveries).after? earlier = some traffic → traffic.Covered) ↔
      EndsAlone (idle endpoint deliveries) history) := by
  refine ⟨loading_iff_enteredLast endpoint deliveries history, ?_, ?_⟩
  · intro covered latest earlier part ending traffic reached
    exact not_inFlight_of_covered ending reached (covered _ traffic part reached)
  · intro alone earlier traffic part reached
    exact covered_of_endsAlone endpoint deliveries earlier traffic reached (alone.of_suffix part)

/-- Two runs enter, and the first to enter ends: the second is under way, and nothing tells. -/
theorem overlapped_run_uncovered :
    ¬ ∀ endpoint deliveries history traffic,
      (idle endpoint deliveries).after? history = some traffic →
      (∃ run, traffic.InFlight run) → Runner.isLoading traffic.remote = true := by
  intro covers
  have loading := covers "" [.answered [], .answered []]
    [.finish 0, .send 1, .enter 1 "", .send 0, .enter 0 ""] _ rfl ⟨1, rfl⟩
  cases loading

end Scratchpad.Traffic
