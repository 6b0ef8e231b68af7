import Scratchpad.Proofs.Playground.LoadProgress

/-!
# One load for all callers

What callers can tell of an interpreter that they share, after any history of their calls: it is
loaded at most once, its stage never turns back, all who ask are told the same, a failure is told
once, and source text is run only after a load that succeeded. Nobody who asks waits forever: the
load takes few steps of its caller, and whoever waits for it then needs two.
-/
namespace Scratchpad

/-- How the stage of an interpreter turns. -/
inductive Stage.Turns : Stage → Stage → Prop
  | begins : Turns .uninitialized .loading
  | succeeds : Turns .loading .ready
  | fails : Turns .loading .failed

/-- What a act writes to the output area. -/
def CallerAct.writes : CallerAct → List Transcript.Write
  | .wrote write => [write]
  | _ => []

/-- What was written to the output area, in order. -/
def written : List Event → List Transcript.Write
  | [] => []
  | latest :: earlier => written earlier ++ latest.act.writes

/-- How many steps are left of a load that has come to a point. -/
def LoadPoint.left : LoadPoint → Nat
  | .entered => 6
  | .begun => 5
  | .fetching => 4
  | .fetched _ => 3
  | .reported => 2
  | .settled _ => 1

/-- Which of the two calls that ask for an interpreter a caller is in. -/
def Position.asking? : Position → Option Asking
  | .called (.ask asking) | .loading asking _ | .kept asking => some asking
  | _ => none

/-- Whether a caller is in a run of source text. -/
def Position.ofRun : Position → Bool
  | .called (.run _) | .refused | .executing _ _ | .delivering _ _ => true
  | _ => false

namespace Callers

/-- What callers can tell of an interpreter that they share. A load of it comes to an outcome, and
the output area held a text at first. -/
structure SharesLoad (outcome : Option Guest.Program) (output : Transcript) (callers : Callers) :
    Prop where
  /-- The load was called for at most once. -/
  once : callers.log.countP (fun event => event.act.callsLoad) ≤ 1
  /-- The next move keeps the stage or turns it. -/
  turns : ∀ move next, callers.step? move = some next →
    next.life.stage = callers.life.stage ∨ callers.life.stage.Turns next.life.stage
  /-- When asking has returned, the stage is final, and it is what asking returned. -/
  final : ∀ caller (asking : Asking) stage,
    ⟨caller, .returned (asking.result stage)⟩ ∈ callers.log →
    callers.life.stage = Lifecycle.outcomeStage outcome ∧
      (asking = .prepare → stage = Lifecycle.outcomeStage outcome)
  /-- Whoever asks can return by its own steps and those of the caller with the permit. -/
  returns : ∀ caller asking, (callers.position caller).asking? = some asking →
    ∃ later last, (∀ move ∈ later, move = .go caller ∨
        ∃ loader, callers.permit = some loader ∧ move = .go loader) ∧
      callers.after? later = some last ∧
      last.position caller = .returned (asking.result (Lifecycle.outcomeStage outcome))
  /-- A failure is told at most once. -/
  told : callers.log.countP (fun event => event.act.tellsFailure) ≤ 1
  /-- It is told only after the load came to it. -/
  toldOnly : callers.log.countP (fun event => event.act.tellsFailure) ≠ 0 →
    outcome = none ∧ ∃ loader, ⟨loader, .loaded none⟩ ∈ callers.log
  /-- It was told whenever the stage is that of a failure. -/
  toldFirst : callers.life.stage = .failed →
    callers.log.countP (fun event => event.act.tellsFailure) = 1
  /-- The output area shows what was written to it since. -/
  shown : callers.output = output.writeAll (written callers.log)
  /-- Source text was run only after a load that succeeded. -/
  executed : ∀ later caller code earlier,
    callers.log = later ++ ⟨caller, .executed code⟩ :: earlier →
    ∃ loader program, ⟨loader, .loaded (some program)⟩ ∈ earlier
  /-- A run of source text never touches the stage or the cell. -/
  spared : ∀ caller next, (callers.position caller).ofRun = true →
    callers.step? (.go caller) = some next → next.life = callers.life
  /-- Before a load succeeds, and whenever it found no program, a run changes nothing and fails. -/
  refused : ∀ caller next, (callers.position caller).ofRun = true →
    ((∀ loader program, ⟨loader, .loaded (some program)⟩ ∉ callers.log) ∨
      callers.position caller = .refused) →
    callers.step? (.go caller) = some next →
    next.runner = callers.runner ∧ next.output = callers.output ∧
      (next.position caller = .refused ∨
        next.position caller = .returned (.ran (.unavailable callers.life.stage)))

/-- A move other than a step of the load leaves the life of the interpreter alone, writes to the
output area what it is noted for, and has nothing run unless there is a program. -/
def Spares (before after : Callers) : Prop :=
  after.life = before.life ∧
    ((after.log = before.log ∧ after.output = before.output) ∨
      ∃ event, after.log = event :: before.log ∧
        after.output = before.output.writeAll event.act.writes ∧
        ∀ code, event.act = .executed code → ∃ program, before.life.program? = some program)

/-- Handing a line to a sink spares the interpreter. -/
theorem spares_hand (callers : Callers) (caller : Nat) (line : SinkLine) :
    callers.Spares (callers.hand caller line) := by
  cases heard : callers.runner.heard with
  | none =>
    simp only [hand, heard]
    refine ⟨rfl, .inr ⟨_, rfl, rfl, ?_⟩⟩
    intro code run
    cases run
  | some lines =>
    simp only [hand, heard, EmbeddedRunner.deliver]
    exact ⟨rfl, .inl ⟨rfl, rfl⟩⟩

/-- Every step of a caller is a step of the load or spares the interpreter. -/
theorem Goes.load_or_spares {before after : Callers} {caller : Nat}
    (goes : before.Goes caller after) :
    (∃ asking point, before.position caller = .loading asking point ∧
      after = before.load caller asking point) ∨ before.Spares after := by
  cases goes with
  | load asking point position => exact .inl ⟨asking, point, position, rfl⟩
  | proceed asking kept position cell => exact .inr ⟨rfl, .inl ⟨rfl, rfl⟩⟩
  | enter asking position cell free => exact .inr ⟨rfl, .inl ⟨rfl, rfl⟩⟩
  | answer asking position => exact .inr ⟨rfl, .inr ⟨_, rfl, rfl, nofun⟩⟩
  | look position => exact .inr ⟨rfl, .inr ⟨_, rfl, rfl, nofun⟩⟩
  | control position => exact .inr ⟨rfl, .inr ⟨_, rfl, rfl, nofun⟩⟩
  | refuse code position missing => exact .inr ⟨rfl, .inl ⟨rfl, rfl⟩⟩
  | execute code program position found =>
    exact .inr ⟨rfl, .inr ⟨_, rfl, rfl, fun _ _ => ⟨program, found⟩⟩⟩
  | excuse position => exact .inr ⟨rfl, .inr ⟨_, rfl, rfl, nofun⟩⟩
  | conclude program code run position ended => exact .inr ⟨rfl, .inl ⟨rfl, rfl⟩⟩
  | hand line lines run position => exact .inr (spares_hand before caller line)
  | deliver run position => exact .inr ⟨rfl, .inr ⟨_, rfl, rfl, nofun⟩⟩

/-- Every move is a step of the load or spares the interpreter. -/
theorem load_or_spares {before after : Callers} {move : Move}
    (taken : before.step? move = some after) :
    (∃ caller asking point, before.position caller = .loading asking point ∧
      after = before.load caller asking point) ∨ before.Spares after := by
  rcases step_cases taken with ⟨caller, call, rfl, position, rfl⟩ | ⟨caller, rfl, goes⟩
  · exact .inr ⟨rfl, .inl ⟨rfl, rfl⟩⟩
  · rcases goes.load_or_spares with ⟨asking, point, loading⟩ | spares
    · exact .inl ⟨caller, asking, point, loading⟩
    · exact .inr spares

/-- A step of the load writes to the output area what it is noted for, and has nothing run. -/
theorem load_noted (callers : Callers) (caller : Nat) (asking : Asking) (point : LoadPoint) :
    ∃ event, (callers.load caller asking point).log = event :: callers.log ∧
      (callers.load caller asking point).output =
        callers.output.writeAll event.act.writes ∧
      ∀ code, event.act ≠ .executed code := by
  cases point with
  | fetched found =>
    cases found with
    | none => exact ⟨_, rfl, rfl, nofun⟩
    | some program => exact ⟨_, rfl, rfl, nofun⟩
  | _ => exact ⟨_, rfl, rfl, nofun⟩

/-- Every move does at most one act, which is all that it writes, and which is the run of a code
only if there is a program. -/
theorem step_noted {before after : Callers} {move : Move} (taken : before.step? move = some after) :
    (after.log = before.log ∧ after.output = before.output) ∨
      ∃ event, after.log = event :: before.log ∧
        after.output = before.output.writeAll event.act.writes ∧
        ∀ code, event.act = .executed code → ∃ program, before.life.program? = some program := by
  rcases load_or_spares taken with ⟨caller, asking, point, position, rfl⟩ | ⟨life, noted⟩
  · obtain ⟨event, log, output, runless⟩ := before.load_noted caller asking point
    exact .inr ⟨event, log, output, fun code same => absurd same (runless code)⟩
  · exact noted

/-- A step of the load keeps the stage or turns it. -/
theorem stage_load {outcome : Option Guest.Program} {callers : Callers} {caller : Nat}
    {point : LoadPoint} (follows : Follows outcome callers (.loading caller point))
    (asking : Asking) :
    (callers.load caller asking point).life.stage = callers.life.stage ∨
      callers.life.stage.Turns (callers.load caller asking point).life.stage := by
  have stage : callers.life.stage = point.stage := follows.stage
  rw [stage]
  cases point with
  | entered => exact .inr .begins
  | begun => exact .inl stage
  | fetching => exact .inl stage
  | fetched found =>
    cases found with
    | none => exact .inl stage
    | some program => exact .inr .succeeds
  | reported => exact .inr .fails
  | settled found => exact .inl stage

/-- Every move keeps the stage or turns it. -/
theorem stage_step {outcome : Option Guest.Program} {before after : Callers} {move : Move}
    {progress : Progress} (follows : Follows outcome before progress)
    (taken : before.step? move = some after) :
    after.life.stage = before.life.stage ∨ before.life.stage.Turns after.life.stage := by
  rcases load_or_spares taken with ⟨caller, asking, point, position, rfl⟩ | ⟨life, noted⟩
  · have held := follows.seated.loading caller asking point position
    subst held
    exact stage_load follows asking
  · exact .inl (congrArg Lifecycle.stage life)

/-- The output area is what was written to it, in the order of the log. -/
theorem output_after (start : Callers) (unnoted : start.log = []) :
    ∀ history callers, start.after? history = some callers →
      callers.output = start.output.writeAll (written callers.log) := by
  apply Moves.after_induction
  · rw [unnoted]
    rfl
  · intro earlier before latest last led ih taken
    rcases step_noted taken with ⟨log, output⟩ | ⟨event, log, output, _⟩
    · rw [log, output, ih]
    · rw [log, output, ih, written, Transcript.writeAll_append]

/-- Acts that are part of a load are counted in its story. -/
theorem Follows.countP_log {outcome : Option Guest.Program} {callers : Callers}
    {progress : Progress} (follows : Follows outcome callers progress) {counts : CallerAct → Bool}
    (part : ∀ act, counts act = true → act.ofLoad = true) :
    callers.log.countP (fun event => counts event.act) =
      (progress.story outcome).countP (fun event => counts event.act) := by
  rw [← follows.story, List.countP_filter]
  refine List.countP_congr fun event _ => ?_
  rw [Bool.and_eq_true]
  exact ⟨fun counted => ⟨counted, part _ counted⟩, And.left⟩

/-- A step of the load leads to a point with less left, or keeps the outcome. -/
theorem load_left (callers : Callers) (caller : Nat) (asking : Asking) (point : LoadPoint) :
    (callers.load caller asking point).position caller = .kept asking ∨
      ∃ next, (callers.load caller asking point).position caller = .loading asking next ∧
        next.left < point.left := by
  cases point with
  | settled found => exact .inl (position_place ..)
  | fetched found =>
    cases found with
    | none => exact .inr ⟨.reported, position_place .., by decide⟩
    | some program =>
      exact .inr ⟨.settled (some program), position_place .., by simp [LoadPoint.left]⟩
  | entered => exact .inr ⟨.begun, position_place .., by decide⟩
  | begun => exact .inr ⟨.fetching, position_place .., by decide⟩
  | fetching => exact .inr ⟨.fetched callers.outcome, position_place .., by simp [LoadPoint.left]⟩
  | reported => exact .inr ⟨.settled none, position_place .., by decide⟩

/-- A step of the load leaves every other caller where it is. -/
theorem position_load_of_ne (callers : Callers) {caller other : Nat} (asking : Asking)
    (point : LoadPoint) (different : other ≠ caller) :
    (callers.load caller asking point).position other = callers.position other := by
  cases point with
  | fetched found => cases found <;> exact position_place_of_ne _ _ different
  | _ => exact position_place_of_ne _ _ different

/-- The caller with the permit can bring the load to its end, whatever the others do not do. -/
theorem after_load (callers : Callers) {caller : Nat} {asking : Asking} {point : LoadPoint}
    (position : callers.position caller = .loading asking point) :
    ∃ count last, callers.after? (List.replicate count (.go caller)) = some last ∧
      last.position caller = .kept asking ∧
      ∀ other, other ≠ caller → last.position other = callers.position other := by
  induction left : point.left using Nat.strongRecOn generalizing callers point with
  | _ steps ih =>
    have taken := step_loading position
    rcases callers.load_left caller asking point with kept | ⟨next, loading, less⟩
    · exact ⟨1, _, after_go taken rfl, kept, fun other different =>
        callers.position_load_of_ne asking point different⟩
    · obtain ⟨count, last, reached, kept, spared⟩ :=
        ih next.left (left ▸ less) (callers.load caller asking point) loading rfl
      refine ⟨count + 1, last, after_go taken reached, kept, fun other different => ?_⟩
      rw [spared other different]
      exact callers.position_load_of_ne asking point different

/-- Asking for an interpreter whose outcome is kept returns in two steps. -/
theorem after_ask_finished {outcome : Option Guest.Program} {callers : Callers}
    {progress : Progress} (follows : Follows outcome callers progress)
    (finished : progress.IsFinished) {caller : Nat} {asking : Asking}
    (position : callers.position caller = .called (.ask asking)) :
    ∃ last, callers.after? (List.replicate 2 (.go caller)) = some last ∧
      last.position caller = .returned (asking.result (Lifecycle.outcomeStage outcome)) := by
  obtain ⟨loader, rfl⟩ := finished
  have looks := step_ask_kept position follows.cell
  have stage : callers.life.stage = Lifecycle.outcomeStage outcome := follows.stage
  rw [← stage]
  exact ⟨_, after_go looks (after_go (step_kept (position_place ..)) rfl), position_place ..⟩

/-- A caller whose outcome is kept returns in one step. -/
theorem after_kept {outcome : Option Guest.Program} {callers : Callers} {progress : Progress}
    (follows : Follows outcome callers progress) {caller : Nat} {asking : Asking}
    (position : callers.position caller = .kept asking) :
    ∃ last, callers.after? (List.replicate 1 (.go caller)) = some last ∧
      last.position caller = .returned (asking.result (Lifecycle.outcomeStage outcome)) := by
  obtain ⟨loader, rfl⟩ := follows.seated.served caller (by rw [position]; rfl)
  have stage : callers.life.stage = Lifecycle.outcomeStage outcome := follows.stage
  rw [← stage]
  exact ⟨_, after_go (step_kept position) rfl, position_place ..⟩

section Fresh

variable {settings : InterpreterSettings} {fetched : Guest.Fetched}
  {heard : Option (List SinkLine)} {output : Transcript} {history : List Move} {callers : Callers}

/-- The caller with the permit can return by its own steps. -/
theorem returns_loading
    (reached : (fresh settings fetched heard output).after? history = some callers) {caller : Nat}
    {asking : Asking} {point : LoadPoint}
    (position : callers.position caller = .loading asking point) :
    ∃ count last, callers.after? (List.replicate count (.go caller)) = some last ∧
      last.position caller = .returned
        (asking.result (Lifecycle.outcomeStage ({ settings, fetched } : Embedded).outcome)) := by
  obtain ⟨count, between, led, kept, _⟩ := callers.after_load position
  obtain ⟨progress, follows⟩ :=
    follows_after settings fetched heard output _ between (Moves.after_trans reached led)
  obtain ⟨last, returns, result⟩ := after_kept follows kept
  refine ⟨1 + count, last, ?_, result⟩
  rw [← List.replicate_append_replicate]
  exact Moves.after_trans led returns

/-- Whoever has just asked can return by its own steps and those of the caller with the permit. -/
theorem returns_called
    (reached : (fresh settings fetched heard output).after? history = some callers) {caller : Nat}
    {asking : Asking} (position : callers.position caller = .called (.ask asking)) :
    ∃ later last, (∀ move ∈ later, move = .go caller ∨
        ∃ loader, callers.permit = some loader ∧ move = .go loader) ∧
      callers.after? later = some last ∧ last.position caller = .returned
        (asking.result (Lifecycle.outcomeStage ({ settings, fetched } : Embedded).outcome)) := by
  obtain ⟨progress, follows⟩ := follows_after settings fetched heard output _ callers reached
  cases progress with
  | untouched =>
    have enters := step_ask_free position follows.cell follows.permit
    have entered := Moves.after_cons.mpr ⟨callers, reached, enters⟩
    obtain ⟨count, last, led, result⟩ := returns_loading entered (position_place ..)
    refine ⟨_, last, ?_, after_go enters led, result⟩
    exact fun move among => .inl (List.eq_of_mem_replicate among)
  | loading loader point =>
    obtain ⟨asked, held⟩ := follows.seated.held loader point rfl
    have different : caller ≠ loader := by
      rintro rfl
      cases position.symm.trans held
    obtain ⟨count, between, led, kept, spared⟩ := callers.after_load held
    obtain ⟨later, ends⟩ :=
      follows_after settings fetched heard output _ between (Moves.after_trans reached led)
    have finished := ends.seated.served loader (by rw [kept]; rfl)
    obtain ⟨last, returns, result⟩ :=
      after_ask_finished ends finished ((spared caller different).trans position)
    refine ⟨_, last, ?_, Moves.after_trans led returns, result⟩
    intro move among
    rcases List.mem_append.mp among with own | others
    · exact .inl (List.eq_of_mem_replicate own)
    · exact .inr ⟨loader, follows.permit, List.eq_of_mem_replicate others⟩
  | finished loader =>
    obtain ⟨last, returns, result⟩ := after_ask_finished follows ⟨loader, rfl⟩ position
    exact ⟨_, last, fun move among => .inl (List.eq_of_mem_replicate among), returns, result⟩

/-- Whoever asks can return by its own steps and those of the caller with the permit. -/
theorem returns_asking
    (reached : (fresh settings fetched heard output).after? history = some callers) {caller : Nat}
    {asking : Asking} (asks : (callers.position caller).asking? = some asking) :
    ∃ later last, (∀ move ∈ later, move = .go caller ∨
        ∃ loader, callers.permit = some loader ∧ move = .go loader) ∧
      callers.after? later = some last ∧ last.position caller = .returned
        (asking.result (Lifecycle.outcomeStage ({ settings, fetched } : Embedded).outcome)) := by
  cases position : callers.position caller with
  | called call =>
    cases call with
    | ask asked =>
      cases (congrArg Position.asking? position).symm.trans asks
      exact returns_called reached position
    | _ => cases (congrArg Position.asking? position).symm.trans asks
  | loading asked point =>
    cases (congrArg Position.asking? position).symm.trans asks
    obtain ⟨count, last, led, result⟩ := returns_loading reached position
    exact ⟨_, last, fun move among => .inl (List.eq_of_mem_replicate among), led, result⟩
  | kept asked =>
    cases (congrArg Position.asking? position).symm.trans asks
    obtain ⟨progress, follows⟩ := follows_after settings fetched heard output _ callers reached
    obtain ⟨last, led, result⟩ := after_kept follows position
    exact ⟨_, last, fun move among => .inl (List.eq_of_mem_replicate among), led, result⟩
  | _ => cases (congrArg Position.asking? position).symm.trans asks

/-- Source text is run only after a load that succeeded. -/
theorem loaded_before_executed (settings : InterpreterSettings) (fetched : Guest.Fetched)
    (heard : Option (List SinkLine)) (output : Transcript) :
    ∀ history callers, (fresh settings fetched heard output).after? history = some callers →
      ∀ later caller code earlier,
        callers.log = later ++ ⟨caller, .executed code⟩ :: earlier →
        ∃ loader program, ⟨loader, .loaded (some program)⟩ ∈ earlier := by
  apply Moves.after_induction
  · intro later caller code earlier split
    simp [fresh] at split
  · intro earlier before latest last led ih taken later caller code rest split
    rcases step_noted taken with ⟨log, _⟩ | ⟨event, log, _, runs⟩
    · exact ih later caller code rest (log ▸ split)
    · rw [log] at split
      cases later with
      | nil =>
        rw [List.nil_append, List.cons.injEq] at split
        obtain ⟨program, found⟩ := runs code (by rw [split.1])
        obtain ⟨progress, follows⟩ := follows_after settings fetched heard output _ before led
        obtain ⟨finished, given⟩ := follows.program found
        obtain ⟨loader, loaded⟩ := Progress.loaded_of_finished finished
        have noted := follows.mem_log loaded
        rw [given, split.2] at noted
        exact ⟨loader, program, noted⟩
      | cons newest later =>
        rw [List.cons_append, List.cons.injEq] at split
        exact ih later caller code rest split.2

/-- A run of source text never takes a step of the load. -/
theorem life_run {before after : Callers} {caller : Nat}
    (position : (before.position caller).ofRun = true)
    (taken : before.step? (.go caller) = some after) : after.life = before.life := by
  rcases (goes_of_go taken).load_or_spares with ⟨asking, point, loading, rfl⟩ | ⟨life, _⟩
  · rw [loading] at position
    cases position
  · exact life

/-- What runs has found a program that was loaded. -/
theorem loaded_of_runs {outcome : Option Guest.Program} {progress : Progress}
    (follows : Follows outcome callers progress) {caller : Nat}
    (runs : (callers.position caller).runs = true) :
    ∃ loader program, ⟨loader, .loaded (some program)⟩ ∈ callers.log := by
  have finished := follows.seated.served caller (Position.isServed_of_runs runs)
  obtain ⟨program, same⟩ := Option.ne_none_iff_exists'.mp (follows.seated.running caller runs)
  obtain ⟨loader, loaded⟩ := Progress.loaded_of_finished finished
  exact ⟨loader, program, same ▸ follows.mem_log loaded⟩

/-- A run that finds no program changes nothing and fails. -/
theorem refused_run {outcome : Option Guest.Program} {progress : Progress} {next : Callers}
    (follows : Follows outcome callers progress) {caller : Nat}
    (position : (callers.position caller).ofRun = true)
    (unserved : (∀ loader program, ⟨loader, .loaded (some program)⟩ ∉ callers.log) ∨
      callers.position caller = .refused)
    (taken : callers.step? (.go caller) = some next) :
    next.runner = callers.runner ∧ next.output = callers.output ∧
      (next.position caller = .refused ∨
        next.position caller = .returned (.ran (.unavailable callers.life.stage))) := by
  have idle : (callers.position caller).runs = false := by
    rcases unserved with unloaded | refused
    · refine Bool.eq_false_iff.mpr fun runs => ?_
      obtain ⟨loader, program, loaded⟩ := loaded_of_runs follows runs
      exact unloaded loader program loaded
    · rw [refused]
      rfl
  cases goes_of_go taken with
  | refuse code called missing => exact ⟨rfl, rfl, .inl (position_place ..)⟩
  | excuse refused => exact ⟨rfl, rfl, .inr (position_place ..)⟩
  | execute code program called found =>
    rcases unserved with unloaded | refused
    · obtain ⟨finished, given⟩ := follows.program found
      obtain ⟨loader, loaded⟩ := Progress.loaded_of_finished finished
      exact absurd (given ▸ follows.mem_log loaded) (unloaded loader program)
    · cases called.symm.trans refused
  | conclude program code run executing ended =>
    rw [executing] at idle
    cases idle
  | hand line lines run delivering =>
    rw [delivering] at idle
    cases idle
  | deliver run delivering =>
    rw [delivering] at idle
    cases idle
  -- The other steps are not steps of a run.
  | _ => simp_all [Position.ofRun]

/-- However the calls on one interpreter are interleaved, its callers share one load. -/
theorem callers_share_load (settings : InterpreterSettings) (fetched : Guest.Fetched)
    (heard : Option (List SinkLine)) (output : Transcript) (history : List Move)
    (callers : Callers)
    (reached : (fresh settings fetched heard output).after? history = some callers) :
    SharesLoad ({ settings, fetched } : Embedded).outcome output callers := by
  obtain ⟨progress, follows⟩ := follows_after settings fetched heard output history callers reached
  have calls := follows.countP_log CallerAct.ofLoad_of_callsLoad
  have tells := follows.countP_log CallerAct.ofLoad_of_tellsFailure
  rw [Progress.countP_tellsFailure_story] at tells
  constructor
  · rw [calls]
    exact Progress.countP_callsLoad_story _ progress
  · intro move next taken
    exact stage_step follows taken
  · intro caller asking stage among
    obtain ⟨⟨loader, rfl⟩, right⟩ := follows.returned caller asking stage among
    exact ⟨follows.stage, right⟩
  · intro caller asking asks
    exact returns_asking reached asks
  · rw [tells]
    exact Progress.tellings_le_one _ progress
  · intro told
    rw [tells] at told
    obtain ⟨missing, loader, loaded⟩ := Progress.loaded_of_tellings follows.fits told
    exact ⟨missing, loader, follows.mem_log loaded⟩
  · intro failed
    rw [tells]
    exact Progress.tellings_of_failed (follows.stage.symm.trans failed)
  · exact output_after (fresh settings fetched heard output) rfl history callers reached
  · exact loaded_before_executed settings fetched heard output history callers reached
  · intro caller next position taken
    exact life_run position taken
  · intro caller next position unserved taken
    exact refused_run follows position unserved taken

end Fresh

/-- Two callers ask for an interpreter that is missing, and a third runs source text meanwhile. -/
def missingHistory : List Move :=
  [.go 1, .go 1] ++ List.replicate 4 (.go 0) ++ [.go 2, .go 2] ++ List.replicate 4 (.go 0) ++
    [.call 2 (.run "1"), .call 1 (.ask .prepare), .call 0 (.ask .mount)]

/-- All calls return, and the failure was told once. -/
theorem callers_share_load_missing :
    ∃ callers, (fresh {} .absent none "stale").after? missingHistory = some callers ∧
      callers.position 1 = .returned (.prepared .failed) ∧
      callers.output = Embedded.loadFailureText ∧
      callers.log.countP (fun event => event.act.tellsFailure) = 1 := by
  obtain ⟨callers, reached, position, failed, log⟩ : ∃ callers,
      (fresh {} .absent none "stale").after? missingHistory = some callers ∧
      callers.position 1 = .returned (.prepared .failed) ∧ callers.life.stage = .failed ∧
      written callers.log = [.replace Embedded.loadFailureText] := ⟨_, rfl, rfl, rfl, rfl⟩
  have shared := callers_share_load {} .absent none "stale" missingHistory callers reached
  refine ⟨callers, reached, position, ?_, shared.toldFirst failed⟩
  rw [shared.shown, log]
  rfl

end Callers

end Scratchpad
