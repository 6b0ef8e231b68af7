import Scratchpad.Playground.Panel
import Scratchpad.Proofs.Remote.LoadingFlag

/-!
# The run control of a service at rest

A run lowers the flag when it ends, whether its reply is shown, its request is lost or timed out, or
the run is given up before anything came back. A run that ends early lowers the flag for all, but
none leaves it up: a flag that is up was raised by a run that is still under way. So when no run is
under way, in whatever order the runs entered and ended, the run control is enabled; and the runs
that are under way can be given up in every state.
-/
namespace Scratchpad.Traffic

/-- A flag that is up was raised by a run that is under way. -/
theorem inFlight_of_loading (endpoint : String) (deliveries : List Delivery) :
    ∀ history traffic, (idle endpoint deliveries).after? history = some traffic →
      Runner.isLoading traffic.remote = true → ∃ run, traffic.InFlight run := by
  apply Moves.after_induction
  · exact nofun
  · intro earlier before latest last led ih taken loading
    rcases step_cases taken with ⟨run, code, rfl, waiting, rfl⟩ | ⟨run, code, rfl, entered, rfl⟩ |
      ⟨run, shown, ending, flying, rfl⟩
    · refine ⟨run, ?_⟩
      rw [InFlight, point_advance]
      rfl
    · obtain ⟨other, flying⟩ := ih loading
      exact ⟨other, (inFlight_send before _ _ entered other).mpr flying⟩
    · cases loading

/-- Every run that is under way is among some runs. -/
def Among (traffic : Traffic) (runs : List Nat) : Prop := ∀ run, traffic.InFlight run → run ∈ runs

/-- In every state, the runs that are under way are finitely many. -/
theorem exists_among (endpoint : String) (deliveries : List Delivery) :
    ∀ history traffic, (idle endpoint deliveries).after? history = some traffic →
      ∃ runs, traffic.Among runs := by
  apply Moves.after_induction
  · exact ⟨[], nofun⟩
  · rintro earlier before latest last led ⟨runs, among⟩ taken
    rcases step_cases taken with ⟨run, code, rfl, waiting, rfl⟩ | ⟨run, code, rfl, entered, rfl⟩ |
      ⟨run, shown, ending, flying, rfl⟩
    · refine ⟨run :: runs, fun other flying => ?_⟩
      by_cases same : other = run
      · exact same ▸ List.mem_cons_self
      · exact List.mem_cons_of_mem run (among other
          ((inFlight_advance_of_ne before _ _ same).mp flying))
    · exact ⟨runs, fun other flying => among other
        ((inFlight_send before _ _ entered other).mp flying)⟩
    · refine ⟨runs, fun other still => ?_⟩
      by_cases same : other = run
      · exact same ▸ among run flying
      · exact among other ((inFlight_advance_of_ne before _ _ same).mp still)

/-- Runs that are under way can be given up one after the other. -/
theorem exists_rest {runs : List Nat} {traffic : Traffic} (among : traffic.Among runs) :
    ∃ later last, (∀ move ∈ later, ∃ run, move = .abandon run) ∧
      traffic.after? later = some last ∧ ∀ run, ¬ last.InFlight run := by
  induction runs generalizing traffic with
  | nil => exact ⟨[], traffic, nofun, rfl, fun run flying => nomatch among run flying⟩
  | cons first rest ih =>
    by_cases flying : traffic.InFlight first
    · let given := traffic.advance first (.ended none) traffic.remote.leave
      have gives : traffic.after? [.abandon first] = some given := if_pos flying
      have remaining : given.Among rest := by
        intro run still
        by_cases same : run = first
        · subst same
          rw [InFlight, point_advance] at still
          cases still
        · exact (List.mem_cons.mp (among run
            ((inFlight_advance_of_ne traffic _ _ same).mp still))).resolve_left same
      obtain ⟨later, last, abandons, reached, none⟩ := ih remaining
      refine ⟨later ++ [.abandon first], last, ?_, Moves.after_trans gives reached, none⟩
      intro move member
      rcases List.mem_append.mp member with after | now
      · exact abandons move after
      · exact ⟨first, List.mem_singleton.mp now⟩
    · refine ih fun run still => (List.mem_cons.mp (among run still)).resolve_left ?_
      rintro rfl
      exact flying still

/-- When no run is under way, the flag is down and the run control of the panel is enabled, whatever
the runs did and however they ended; and in every state the runs that are under way can be given
up. -/
theorem run_control_comes_back (endpoint : String) (deliveries : List Delivery)
    (history : List Move) (traffic : Traffic)
    (reached : (idle endpoint deliveries).after? history = some traffic) :
    ((∀ run, ¬ traffic.InFlight run) → Runner.isLoading traffic.remote = false ∧
      ∀ panel : Panel Backend, panel.playground.python = .remote traffic.remote →
        panel.runEnabled = true ∧ panel.runLabel = "Run") ∧
    ∃ later last, (∀ move ∈ later, ∃ run, move = .abandon run) ∧
      traffic.after? later = some last ∧ ∀ run, ¬ last.InFlight run := by
  constructor
  · intro rest
    have lowered : Runner.isLoading traffic.remote = false := by
      cases loading : Runner.isLoading traffic.remote with
      | false => rfl
      | true =>
        obtain ⟨run, flying⟩ := inFlight_of_loading endpoint deliveries history traffic reached
          loading
        exact absurd flying (rest run)
    refine ⟨lowered, fun panel remote => ?_⟩
    have enabled : panel.runEnabled = true := by
      rw [Panel.runEnabled, remote]
      exact congrArg Bool.not lowered
    exact ⟨enabled, by rw [Panel.runLabel, enabled]; rfl⟩
  · obtain ⟨runs, among⟩ := exists_among endpoint deliveries history traffic reached
    exact exists_rest among

/-- Three runs overlap: one gets a malformed reply, one times out, and one is given up, in another
order than they entered. -/
theorem overlapped_run_control_comes_back :
    ∃ traffic,
      (idle "" [.answered [], .lost "timed out"]).after?
        [.abandon 2, .finish 0, .finish 1, .enter 2 "", .send 1, .enter 1 "", .send 0,
          .enter 0 ""] = some traffic ∧
      (∀ run, ¬ traffic.InFlight run) ∧ Runner.isLoading traffic.remote = false := by
  refine ⟨_, rfl, ?rest, ((run_control_comes_back "" [.answered [], .lost "timed out"]
    [.abandon 2, .finish 0, .finish 1, .enter 2 "", .send 1, .enter 1 "", .send 0, .enter 0 ""]
    _ rfl).1 ?rest).1⟩
  exact fun
    | 0 | 1 | 2 | _ + 3 => nofun

end Scratchpad.Traffic
