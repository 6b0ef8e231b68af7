import Scratchpad.Playground.Callers

/-!
# The progress of the only load

However the calls on one interpreter are interleaved, its load goes through the same acts in the
same order, done by one caller, and what everybody reads follows from how many of them were done.
The invariant is therefore one value: how far the only load has come. It determines the stage, the
cell, the permit, and every act of a load in the log.
-/
namespace Scratchpad

namespace CallerAct

/-- Whether a act calls for the load. -/
def callsLoad : CallerAct → Bool
  | .loads => true
  | _ => false

/-- Whether a act tells of a failed load in the output area. -/
def tellsFailure : CallerAct → Bool
  | .wrote write => write = .replace Embedded.loadFailureText
  | _ => false

/-- Whether a act can be part of a load. -/
def ofLoad : CallerAct → Bool
  | .staged _ | .loads | .loaded _ | .kept => true
  | .wrote write => write = .replace Embedded.loadFailureText
  | .executed _ | .returned _ => false

/-- A call for the load is part of it. -/
theorem ofLoad_of_callsLoad (act : CallerAct) (calls : act.callsLoad = true) :
    act.ofLoad = true := by
  cases act with
  | loads => rfl
  | _ => cases calls

/-- Telling of a failed load is part of it. -/
theorem ofLoad_of_tellsFailure (act : CallerAct) (tells : act.tellsFailure = true) :
    act.ofLoad = true := by
  cases act with
  | wrote write => exact tells
  | _ => cases tells

end CallerAct

namespace LoadPoint

/-- The stage at a point of a load. -/
def stage : LoadPoint → Stage
  | .entered => .uninitialized
  | .begun | .fetching | .fetched _ | .reported => .loading
  | .settled outcome => Lifecycle.outcomeStage outcome

/-- Whether a load with an outcome comes to a point. -/
def Fits (outcome : Option Guest.Program) : LoadPoint → Prop
  | .entered | .begun | .fetching => True
  | .fetched found | .settled found => found = outcome
  | .reported => outcome = none

/-- What was done when a load has come to a point, the latest first. -/
def acts : LoadPoint → List CallerAct
  | .entered => []
  | .begun => [.staged .loading]
  | .fetching => [.loads, .staged .loading]
  | .fetched outcome => [.loaded outcome, .loads, .staged .loading]
  | .reported =>
    [.wrote (.replace Embedded.loadFailureText), .loaded none, .loads, .staged .loading]
  | .settled none =>
    [.staged .failed, .wrote (.replace Embedded.loadFailureText), .loaded none, .loads,
      .staged .loading]
  | .settled (some program) =>
    [.staged .ready, .loaded (some program), .loads, .staged .loading]

end LoadPoint

/-- How far the only load of an interpreter has come. -/
inductive Progress where
  /-- Nobody has the permit. -/
  | untouched
  /-- A caller has it, and has come to a point. -/
  | loading (caller : Nat) (point : LoadPoint)
  /-- The outcome is kept, by the caller that had the permit. -/
  | finished (caller : Nat)

namespace Progress

/-- The stage of a load with an outcome. -/
def stage (outcome : Option Guest.Program) : Progress → Stage
  | .untouched => .uninitialized
  | .loading _ point => point.stage
  | .finished _ => Lifecycle.outcomeStage outcome

/-- The cell of a load with an outcome. -/
def cell (outcome : Option Guest.Program) : Progress → Option (Option Guest.Program)
  | .untouched | .loading _ _ => none
  | .finished _ => some outcome

/-- Who has the permit. -/
def permit : Progress → Option Nat
  | .untouched | .finished _ => none
  | .loading caller _ => some caller

/-- What was done of a load with an outcome. -/
def story (outcome : Option Guest.Program) : Progress → List Event
  | .untouched => []
  | .loading caller point => point.acts.map (⟨caller, ·⟩)
  | .finished caller => (.kept :: (LoadPoint.settled outcome).acts).map (⟨caller, ·⟩)

/-- How often a load with an outcome has told of its failure. -/
def tellings (outcome : Option Guest.Program) : Progress → Nat
  | .untouched => 0
  | .loading _ .reported | .loading _ (.settled none) => 1
  | .loading _ _ => 0
  | .finished _ => if outcome = none then 1 else 0

/-- Whether the outcome is kept. -/
def IsFinished (progress : Progress) : Prop := ∃ caller, progress = .finished caller

/-- The load is called for at most once in its story. -/
theorem countP_callsLoad_story (outcome : Option Guest.Program) (progress : Progress) :
    (progress.story outcome).countP (fun event => event.act.callsLoad) ≤ 1 := by
  cases progress with
  | untouched => exact Nat.zero_le 1
  | loading caller point =>
    cases point with
    | settled found => cases found <;> simp [story, LoadPoint.acts, CallerAct.callsLoad]
    | _ => simp [story, LoadPoint.acts, CallerAct.callsLoad]
  | finished caller => cases outcome <;> simp [story, LoadPoint.acts, CallerAct.callsLoad]

/-- The story of a load tells of its failure from shortly before the stage does. -/
theorem countP_tellsFailure_story (outcome : Option Guest.Program) (progress : Progress) :
    (progress.story outcome).countP (fun event => event.act.tellsFailure) =
      progress.tellings outcome := by
  cases progress with
  | untouched => rfl
  | loading caller point =>
    cases point with
    | settled found =>
      cases found <;> simp [story, tellings, LoadPoint.acts, CallerAct.tellsFailure]
    | _ => simp [story, tellings, LoadPoint.acts, CallerAct.tellsFailure]
  | finished caller =>
    cases outcome <;> simp [story, tellings, LoadPoint.acts, CallerAct.tellsFailure]

/-- A failure is told at most once. -/
theorem tellings_le_one (outcome : Option Guest.Program) (progress : Progress) :
    progress.tellings outcome ≤ 1 := by
  fun_cases tellings
  all_goals omega

/-- A failure that was told is the outcome, and it came out of the load before. -/
theorem loaded_of_tellings {outcome : Option Guest.Program} {progress : Progress}
    (fits : ∀ caller point, progress = .loading caller point → point.Fits outcome)
    (told : progress.tellings outcome ≠ 0) :
    outcome = none ∧ ∃ caller, ⟨caller, .loaded none⟩ ∈ progress.story outcome := by
  cases progress with
  | untouched => exact absurd rfl told
  | loading caller point =>
    have fitting := fits caller point rfl
    cases point with
    | reported =>
      exact ⟨fitting, caller, List.mem_map_of_mem (by simp [LoadPoint.acts])⟩
    | settled found =>
      cases found with
      | none => exact ⟨fitting.symm, caller, List.mem_map_of_mem (by simp [LoadPoint.acts])⟩
      | some program => exact absurd rfl told
    | _ => exact absurd rfl told
  | finished caller =>
    cases outcome with
    | none => exact ⟨rfl, caller, List.mem_map_of_mem (by simp [LoadPoint.acts])⟩
    | some program => exact absurd rfl told

/-- Whoever reads that the load failed can read so in the output area. -/
theorem tellings_of_failed {outcome : Option Guest.Program} {progress : Progress}
    (failed : progress.stage outcome = .failed) : progress.tellings outcome = 1 := by
  cases progress with
  | untouched => cases failed
  | loading caller point =>
    cases point with
    | settled found =>
      cases found with
      | none => rfl
      | some program => cases failed
    | _ => cases failed
  | finished caller =>
    cases outcome with
    | none => rfl
    | some program => cases failed

/-- The outcome that is kept came out of the load. -/
theorem loaded_of_finished {outcome : Option Guest.Program} {progress : Progress}
    (finished : progress.IsFinished) :
    ∃ caller, ⟨caller, .loaded outcome⟩ ∈ progress.story outcome := by
  obtain ⟨caller, rfl⟩ := finished
  refine ⟨caller, List.mem_map_of_mem ?_⟩
  cases outcome <;> simp [LoadPoint.acts]

end Progress

/-- Whether a caller takes a step of the load next. -/
def Position.isLoading : Position → Bool
  | .loading _ _ => true
  | _ => false

/-- Whether a caller has seen that the outcome is kept. -/
def Position.isServed : Position → Bool
  | .kept _ | .executing _ _ | .delivering _ _ => true
  | _ => false

/-- Whether a caller has found a program and runs it. -/
def Position.runs : Position → Bool
  | .executing _ _ | .delivering _ _ => true
  | _ => false

/-- Whoever runs a program has seen that it is kept. -/
theorem Position.isServed_of_runs {position : Position} (runs : position.runs = true) :
    position.isServed = true := by
  cases position with
  | executing program code => rfl
  | delivering lines run => rfl
  | _ => cases runs

namespace Callers

/-- What ties the positions of callers to the progress of the only load. -/
structure Seated (outcome : Option Guest.Program) (position : Nat → Position)
    (progress : Progress) : Prop where
  /-- Whoever has the permit is at the point that the load has come to. -/
  held : ∀ caller point, progress = .loading caller point →
    ∃ asking, position caller = .loading asking point
  /-- Nobody else is at any point of it. -/
  loading : ∀ caller asking point, position caller = .loading asking point →
    progress = .loading caller point
  served : ∀ caller, (position caller).isServed = true → progress.IsFinished
  /-- Only a program is run. -/
  running : ∀ caller, (position caller).runs = true → outcome ≠ none

/-- A caller may come to another position if the load comes to where that position has it, and
nobody else is at another point of the load than before. -/
theorem Seated.place {outcome : Option Guest.Program} {callers : Callers} {progress : Progress}
    (seated : Seated outcome callers.position progress) {caller : Nat} {position : Position}
    (next : Progress)
    (own : ∀ point, next = .loading caller point ↔ ∃ asking, position = .loading asking point)
    (others : ∀ other point, other ≠ caller →
      (next = .loading other point ↔ progress = .loading other point))
    (lasting : progress.IsFinished → next.IsFinished)
    (serves : position.isServed = true → next.IsFinished)
    (runs : position.runs = true → outcome ≠ none) :
    Seated outcome (callers.place caller position).position next := by
  have spared (other : Nat) (different : other ≠ caller) :=
    position_place_of_ne callers position different
  constructor
  · intro other point reached
    by_cases same : other = caller
    · subst same
      rw [position_place]
      exact (own point).mp reached
    · rw [spared other same]
      exact seated.held other point ((others other point same).mp reached)
  · intro other asking point loading
    by_cases same : other = caller
    · subst same
      rw [position_place] at loading
      exact (own point).mpr ⟨asking, loading⟩
    · rw [spared other same] at loading
      exact (others other point same).mpr (seated.loading other asking point loading)
  · intro other served
    by_cases same : other = caller
    · subst same
      rw [position_place] at served
      exact serves served
    · rw [spared other same] at served
      exact lasting (seated.served other served)
  · intro other running
    by_cases same : other = caller
    · subst same
      rw [position_place] at running
      exact runs running
    · rw [spared other same] at running
      exact seated.running other running

/-- What ties callers to the progress of the only load. -/
structure Follows (outcome : Option Guest.Program) (callers : Callers) (progress : Progress) :
    Prop where
  /-- A load would always come to the same outcome. -/
  same : callers.outcome = outcome
  stage : callers.life.stage = progress.stage outcome
  cell : callers.life.cell = progress.cell outcome
  permit : callers.permit = progress.permit
  /-- The load comes only to points that its outcome allows. -/
  fits : ∀ caller point, progress = .loading caller point → point.Fits outcome
  seated : Seated outcome callers.position progress
  /-- What was done of a load is what its progress tells. -/
  story : callers.log.filter (·.act.ofLoad) = progress.story outcome
  /-- A stage that asking returned is that of the outcome. -/
  returned : ∀ caller (asking : Asking) stage,
    ⟨caller, .returned (asking.result stage)⟩ ∈ callers.log →
    progress.IsFinished ∧ (asking = .prepare → stage = Lifecycle.outcomeStage outcome)

namespace Follows

variable {outcome : Option Guest.Program} {callers : Callers} {progress : Progress}

/-- A caller that is not loading may come to any position that its progress allows. -/
theorem place (follows : Follows outcome callers progress) {caller : Nat} {position : Position}
    (idle : (callers.position caller).isLoading = false) (unloading : position.isLoading = false)
    (serves : position.isServed = true → progress.IsFinished)
    (runs : position.runs = true → outcome ≠ none) :
    Follows outcome (callers.place caller position) progress := by
  have own (point : LoadPoint) :
      progress = .loading caller point ↔ ∃ asking, position = .loading asking point := by
    constructor
    · intro reached
      obtain ⟨asking, held⟩ := follows.seated.held caller point reached
      rw [held] at idle
      cases idle
    · rintro ⟨asking, rfl⟩
      cases unloading
  exact ⟨follows.same, follows.stage, follows.cell, follows.permit, follows.fits,
    follows.seated.place progress own (fun _ _ _ => Iff.rfl) id serves runs, follows.story,
    follows.returned⟩

/-- A act that is not part of a load may be done if what it returns is right. -/
theorem note (follows : Follows outcome callers progress) (caller : Nat) (act : CallerAct)
    (unrelated : act.ofLoad = false)
    (right : ∀ (asking : Asking) stage, act = .returned (asking.result stage) →
      progress.IsFinished ∧ (asking = .prepare → stage = Lifecycle.outcomeStage outcome)) :
    Follows outcome (callers.note caller act) progress := by
  refine ⟨follows.same, follows.stage, follows.cell, follows.permit, follows.fits, follows.seated,
    ?_, ?_⟩
  · change List.filter _ (⟨caller, act⟩ :: callers.log) = _
    rw [List.filter_cons_of_neg (by simp [unrelated])]
    exact follows.story
  · intro other asking stage among
    rcases List.mem_cons.mp among with latest | earlier
    · rw [Event.mk.injEq] at latest
      exact right asking stage latest.2.symm
    · exact follows.returned other asking stage earlier

/-- A call of any other kind than asking may return. -/
theorem finish (follows : Follows outcome callers progress) {caller : Nat} {result : CallResult}
    (idle : (callers.position caller).isLoading = false)
    (right : ∀ (asking : Asking) stage, result = asking.result stage →
      progress.IsFinished ∧ (asking = .prepare → stage = Lifecycle.outcomeStage outcome)) :
    Follows outcome (callers.finish caller result) progress := by
  have placed : Follows outcome (callers.place caller (.returned result)) progress :=
    follows.place idle rfl nofun nofun
  refine placed.note caller (.returned result) rfl ?_
  intro asking stage same
  rw [CallerAct.returned.injEq] at same
  exact right asking stage same

/-- Handing a line to a sink is no part of a load. -/
theorem hand (follows : Follows outcome callers progress) (caller : Nat) (line : SinkLine) :
    Follows outcome (callers.hand caller line) progress := by
  cases heard : callers.runner.heard with
  | none =>
    have unrelated : (CallerAct.wrote line.write).ofLoad = false := by
      obtain ⟨stream, text⟩ := line
      cases stream <;> rfl
    have noted := follows.note caller _ unrelated nofun
    simp only [Callers.hand, heard]
    exact ⟨noted.same, noted.stage, noted.cell, noted.permit, noted.fits, noted.seated,
      noted.story, noted.returned⟩
  | some lines =>
    simp only [Callers.hand, EmbeddedRunner.deliver, heard]
    exact ⟨follows.same, follows.stage, follows.cell, follows.permit, follows.fits,
      follows.seated, follows.story, follows.returned⟩

/-- The caller with the permit may come to another point that does one more act of the load. -/
theorem advance {caller : Nat} {asking : Asking} {point : LoadPoint} {after : Callers}
    {act : CallerAct} (follows : Follows outcome callers (.loading caller point)) (next : LoadPoint)
    (same : after.outcome = callers.outcome) (stage : after.life.stage = next.stage)
    (cell : after.life.cell = callers.life.cell) (permit : after.permit = callers.permit)
    (fits : next.Fits outcome)
    (position : after.position = (callers.place caller (.loading asking next)).position)
    (log : after.log = ⟨caller, act⟩ :: callers.log) (part : act.ofLoad = true)
    (unreturned : ∀ result, act ≠ .returned result) (acts : next.acts = act :: point.acts) :
    Follows outcome after (.loading caller next) := by
  refine ⟨same.trans follows.same, stage, cell.trans follows.cell, permit.trans follows.permit,
    ?_, ?_, ?_, ?_⟩
  · rintro _ _ ⟨⟩
    exact fits
  · rw [position]
    refine follows.seated.place (.loading caller next) ?_ ?_ ?_ nofun nofun
    · intro reached
      simp
    · intro other reached different
      simp [Ne.symm different]
    · rintro ⟨_, finished⟩
      cases finished
  · have kept : List.filter (·.act.ofLoad) (⟨caller, act⟩ :: callers.log) =
        ⟨caller, act⟩ :: callers.log.filter (·.act.ofLoad) := List.filter_cons_of_pos part
    rw [log, kept, follows.story, Progress.story, Progress.story, acts]
    rfl
  · intro other asked stage among
    rw [log] at among
    rcases List.mem_cons.mp among with latest | earlier
    · rw [Event.mk.injEq] at latest
      exact absurd latest.2.symm (unreturned _)
    · obtain ⟨⟨_, finished⟩, _⟩ := follows.returned other asked stage earlier
      cases finished

/-- Keeping the outcome ends the load and gives the permit back. -/
theorem settle {caller : Nat} {asking : Asking}
    (follows : Follows outcome callers (.loading caller (.settled outcome))) :
    Follows outcome (callers.load caller asking (.settled outcome)) (.finished caller) := by
  refine ⟨follows.same, follows.stage, rfl, rfl, ?_, ?_, ?_, ?_⟩
  · intro other point same
    cases same
  · refine follows.seated.place (.finished caller) ?_ ?_ ?_ (fun _ => ⟨caller, rfl⟩) nofun
    · intro reached
      simp
    · intro other reached different
      simp [Ne.symm different]
    · rintro ⟨_, finished⟩
      cases finished
  · exact congrArg (⟨caller, .kept⟩ :: ·) follows.story
  · intro other asked stage among
    rcases List.mem_cons.mp among with latest | earlier
    · cases latest
    · obtain ⟨⟨_, finished⟩, _⟩ := follows.returned other asked stage earlier
      cases finished

/-- The next step of the load takes it to its next point, or ends it. -/
theorem load {caller : Nat} {asking : Asking} {point : LoadPoint}
    (follows : Follows outcome callers (.loading caller point)) :
    ∃ next, Follows outcome (callers.load caller asking point) next := by
  have fits := follows.fits caller point rfl
  have stage := follows.stage
  cases point with
  | entered =>
    exact ⟨_, follows.advance .begun rfl rfl rfl rfl trivial rfl rfl rfl nofun rfl⟩
  | begun =>
    exact ⟨_, follows.advance .fetching rfl stage rfl rfl trivial rfl rfl rfl nofun rfl⟩
  | fetching =>
    exact ⟨_, follows.advance (.fetched callers.outcome) rfl stage rfl rfl follows.same
      rfl rfl rfl nofun rfl⟩
  | fetched found =>
    cases found with
    | none =>
      exact ⟨_, follows.advance .reported rfl stage rfl rfl fits.symm rfl rfl rfl nofun
        rfl⟩
    | some program =>
      exact ⟨_, follows.advance (.settled (some program)) rfl rfl rfl rfl fits rfl rfl rfl
        nofun rfl⟩
  | reported =>
    exact ⟨_, follows.advance (.settled none) rfl rfl rfl rfl fits.symm rfl rfl rfl nofun
      rfl⟩
  | settled found =>
    have expected : found = outcome := fits
    subst expected
    exact ⟨.finished caller, follows.settle⟩

/-- Nothing was done for an empty cell while the permit is free. -/
theorem untouched (follows : Follows outcome callers progress) (cell : callers.life.cell = none)
    (free : callers.permit = none) : progress = .untouched := by
  have empty := follows.cell.symm.trans cell
  have unheld := follows.permit.symm.trans free
  cases progress with
  | untouched => rfl
  | loading caller point => cases unheld
  | finished caller => cases empty

/-- Taking the free permit of an empty cell begins the only load. -/
theorem enter {caller : Nat} {asking : Asking} (follows : Follows outcome callers .untouched) :
    Follows outcome { callers.place caller (.loading asking .entered) with permit := some caller }
      (.loading caller .entered) := by
  refine ⟨follows.same, follows.stage, follows.cell, rfl, ?_, ?_, follows.story, ?_⟩
  · rintro _ _ ⟨⟩
    trivial
  · refine follows.seated.place (.loading caller .entered) ?_ ?_ ?_ nofun nofun
    · intro reached
      simp
    · intro other reached different
      simp [Ne.symm different]
    · rintro ⟨_, finished⟩
      cases finished
  · intro other asked stage among
    obtain ⟨⟨_, finished⟩, _⟩ := follows.returned other asked stage among
    cases finished

/-- What the story of the load tells was done. -/
theorem mem_log (follows : Follows outcome callers progress) {event : Event}
    (told : event ∈ progress.story outcome) : event ∈ callers.log := by
  rw [← follows.story] at told
  exact (List.mem_filter.mp told).1

/-- A kept program can be reached only when the load is finished. -/
theorem program (follows : Follows outcome callers progress) {program : Guest.Program}
    (found : callers.life.program? = some program) :
    progress.IsFinished ∧ outcome = some program := by
  rw [Lifecycle.program?, follows.cell] at found
  cases progress with
  | untouched => cases found
  | loading caller point => cases found
  | finished caller => exact ⟨⟨caller, rfl⟩, found⟩

end Follows

/-- Handing a line to a sink leaves every caller where it is. -/
@[simp]
theorem position_hand (callers : Callers) (caller : Nat) (line : SinkLine) :
    (callers.hand caller line).position = callers.position := by
  cases heard : callers.runner.heard with
  | none =>
    simp only [hand, heard]
    rfl
  | some lines => simp only [hand, heard]

/-- Every step of a caller keeps the callers in line with the progress of the only load. -/
theorem follows_go {outcome : Option Guest.Program} {before after : Callers} {caller : Nat}
    {progress : Progress} (follows : Follows outcome before progress)
    (goes : before.Goes caller after) : ∃ next, Follows outcome after next := by
  cases goes with
  | proceed asking kept position cell =>
    have filled := follows.cell.symm.trans cell
    refine ⟨progress, follows.place (by rw [position]; rfl) rfl (fun _ => ?_) nofun⟩
    cases progress with
    | untouched => cases filled
    | loading loader point => cases filled
    | finished loader => exact ⟨loader, rfl⟩
  | enter asking position cell free =>
    have untouched := follows.untouched cell free
    subst untouched
    exact ⟨_, follows.enter⟩
  | load asking point position =>
    have held := follows.seated.loading caller asking point position
    subst held
    exact follows.load
  | answer asking position =>
    have finished := follows.seated.served caller (by rw [position]; rfl)
    refine ⟨progress, follows.finish (by rw [position]; rfl) ?_⟩
    intro asked stage same
    refine ⟨finished, ?_⟩
    rintro rfl
    obtain ⟨loader, rfl⟩ := finished
    cases asking with
    | prepare =>
      cases same
      exact follows.stage
    | mount => cases same
  | look position =>
    exact ⟨progress, follows.finish (by rw [position]; rfl) (by rintro ⟨⟩ stage ⟨⟩)⟩
  | control position =>
    exact ⟨progress, follows.finish (by rw [position]; rfl) (by rintro ⟨⟩ stage ⟨⟩)⟩
  | refuse code position missing =>
    exact ⟨progress, follows.place (by rw [position]; rfl) rfl nofun nofun⟩
  | execute code program position found =>
    obtain ⟨finished, given⟩ := follows.program found
    have noted : Follows outcome (before.note caller (.executed code)) progress :=
      follows.note caller _ rfl nofun
    have idle : ((before.note caller (.executed code)).position caller).isLoading = false := by
      change (before.position caller).isLoading = false
      rw [position]
      rfl
    exact ⟨progress, noted.place idle rfl (fun _ => finished) fun _ => by simp [given]⟩
  | excuse position =>
    exact ⟨progress, follows.finish (by rw [position]; rfl) (by rintro ⟨⟩ stage ⟨⟩)⟩
  | conclude program code run position ended =>
    have finished := follows.seated.served caller (by rw [position]; rfl)
    have given := follows.seated.running caller (by rw [position]; rfl)
    exact ⟨progress,
      follows.place (by rw [position]; rfl) rfl (fun _ => finished) fun _ => given⟩
  | hand line lines run position =>
    have finished := follows.seated.served caller (by rw [position]; rfl)
    have given := follows.seated.running caller (by rw [position]; rfl)
    exact ⟨progress, (follows.hand caller line).place (by rw [position_hand, position]; rfl) rfl
      (fun _ => finished) fun _ => given⟩
  | deliver run position =>
    exact ⟨progress, follows.finish (by rw [position]; rfl) (by rintro ⟨⟩ stage ⟨⟩)⟩

/-- Every move keeps the callers in line with the progress of the only load. -/
theorem follows_step {outcome : Option Guest.Program} {before after : Callers} {move : Move}
    {progress : Progress} (follows : Follows outcome before progress)
    (taken : before.step? move = some after) : ∃ next, Follows outcome after next := by
  rcases step_cases taken with ⟨caller, call, rfl, position, rfl⟩ | ⟨caller, rfl, goes⟩
  · exact ⟨progress, follows.place (by rw [position]; rfl) rfl nofun nofun⟩
  · exact follows_go follows goes

/-- Callers that have not called for an interpreter that nobody asked for. -/
def fresh (settings : InterpreterSettings) (fetched : Guest.Fetched)
    (heard : Option (List SinkLine)) (output : Transcript) : Callers where
  runner := { embedded := { settings, fetched }, heard }
  output

/-- After every history the callers are in line with the progress of one load. -/
theorem follows_after (settings : InterpreterSettings) (fetched : Guest.Fetched)
    (heard : Option (List SinkLine)) (output : Transcript) :
    ∀ history callers, (fresh settings fetched heard output).after? history = some callers →
      ∃ progress, Follows ({ settings, fetched } : Embedded).outcome callers progress := by
  apply Moves.after_induction
  · refine ⟨.untouched, rfl, rfl, rfl, rfl, ?_, ⟨?_, ?_, ?_, ?_⟩, rfl, ?_⟩
    · intro caller point same
      cases same
    · intro caller point same
      cases same
    · intro caller asking point loading
      cases loading
    · intro caller served
      cases served
    · intro caller running
      cases running
    · intro caller asking stage among
      cases among
  · rintro earlier before latest last led ⟨progress, follows⟩ taken
    exact follows_step follows taken

end Callers

end Scratchpad
