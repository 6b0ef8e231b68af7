import Scratchpad.Moves
import Scratchpad.Playground.Panel

/-!
# Overlapping runs of one playground

A run clears the transcript, waits until its work comes to an answer, writes the answer piece by
piece, and returns what the transcript shows then. Nothing keeps a run from beginning while others
are under way: runs are numbered, their moves come in any order, and all of them write to one
transcript. A run can be given up for as long as it waits; a run that writes waits for nothing. The
flag that a remote run raises meanwhile is not told here but with the traffic of the service.
-/
namespace Scratchpad

/-- How far a run of a playground has come. -/
inductive RunPoint where
  /-- It has not begun. -/
  | absent
  /-- It cleared the transcript and waits for what becomes of a code; a script is run on a thread
  with a number. -/
  | awaiting (thread : Nat) (language : Language) (code : String)
  /-- Its work came to an answer, and nothing of it is written. -/
  | settled (answer : Answer)
  /-- It writes the answer, and these writes are still to come. -/
  | writing (answer : Answer) (rest : List Transcript.Write)
  /-- Its answer is written, and it returned what the transcript showed then. -/
  | returned (answer : Answer) (shown : String)
  /-- It was given up. -/
  | abandoned

/-- Whether a run waits, so that it can be given up. -/
def RunPoint.waits : RunPoint → Bool
  | .awaiting .. | .settled _ => true
  | .absent | .writing .. | .returned .. | .abandoned => false

/-- The text that an answer leaves in a transcript that was cleared before it. -/
def Answer.text (answer : Answer) : String := Transcript.writeAll "" answer.writes

/-- A playground and the runs on it. -/
structure Overlap (σ : Type) where
  playground : Playground σ
  progress : Nat → RunPoint := fun _ => .absent
  /-- What was written by runs with their numbers, the latest first. -/
  log : List (Nat × Transcript.Write) := []

namespace Overlap

/-- One move of one run. -/
inductive Move where
  /-- The run clears the transcript and hands on its code. -/
  | begin (run thread : Nat) (language : Language) (code : String)
  /-- Its work comes to an answer. -/
  | settle (run : Nat)
  /-- The run learns of the answer. -/
  | resume (run : Nat)
  /-- The run makes the next write of its answer. -/
  | write (run : Nat)
  /-- The run returns what the transcript shows. -/
  | leave (run : Nat)
  /-- The run is given up. -/
  | abandon (run : Nat)
deriving DecidableEq, Repr

/-- The run that makes a move. -/
def Move.run : Move → Nat
  | .begin run .. | .settle run | .resume run | .write run | .leave run | .abandon run => run

variable {σ : Type}

/-- The runs after one of them has come further. -/
def advance (overlap : Overlap σ) (run : Nat) (progress : RunPoint) : Overlap σ :=
  { overlap with
    progress := fun other => if other = run then progress else overlap.progress other }

/-- The runs after a write by one of them. -/
def put (overlap : Overlap σ) (run : Nat) (write : Transcript.Write) : Overlap σ :=
  { overlap with
    playground := overlap.playground.write write
    log := (run, write) :: overlap.log }

/-- The runs after the work of one of them left another runner of Python behind. -/
def become (overlap : Overlap σ) (python : σ) : Overlap σ :=
  { overlap with playground := { overlap.playground with python } }

variable [Runner σ]

/-- `Playground::run` — the runs after a move, if its run has come far enough for it and not too
far. -/
def step? (overlap : Overlap σ) : Move → Option (Overlap σ)
  | .begin run thread language code =>
    match overlap.progress run with
    | .absent => some ((overlap.advance run (.awaiting thread language code)).put run .reset)
    | _ => none
  | .settle run =>
    match overlap.progress run with
    | .awaiting thread language code =>
      let (answer, python) := overlap.playground.answer thread language code
      some ((overlap.advance run (.settled answer)).become python)
    | _ => none
  | .resume run =>
    match overlap.progress run with
    | .settled answer => some (overlap.advance run (.writing answer answer.writes))
    | _ => none
  | .write run =>
    match overlap.progress run with
    | .writing answer (write :: rest) =>
      some ((overlap.advance run (.writing answer rest)).put run write)
    | _ => none
  | .leave run =>
    match overlap.progress run with
    | .writing answer [] => some (overlap.advance run (.returned answer overlap.playground.output))
    | _ => none
  | .abandon run =>
    if (overlap.progress run).waits then some (overlap.advance run .abandoned) else none

/-- The runs after a history of moves, if each of them could be made. -/
abbrev after? (overlap : Overlap σ) (history : List Move) : Option (Overlap σ) :=
  Moves.after? step? overlap history

/-- The moves of runs, one by one. -/
inductive Moved (overlap : Overlap σ) : Move → Overlap σ → Prop
  /-- A run begins. -/
  | begin (run thread : Nat) (language : Language) (code : String)
    (progress : overlap.progress run = .absent) :
    Moved overlap (.begin run thread language code)
      ((overlap.advance run (.awaiting thread language code)).put run .reset)
  /-- The work of a run comes to the answer that the playground has for it by then. -/
  | settle (run thread : Nat) (language : Language) (code : String)
    (progress : overlap.progress run = .awaiting thread language code) :
    Moved overlap (.settle run)
      ((overlap.advance run
        (.settled (overlap.playground.answer thread language code).1)).become
          (overlap.playground.answer thread language code).2)
  /-- A run learns of its answer. -/
  | resume (run : Nat) (answer : Answer) (progress : overlap.progress run = .settled answer) :
    Moved overlap (.resume run) (overlap.advance run (.writing answer answer.writes))
  /-- A run makes its next write. -/
  | write (run : Nat) (answer : Answer) (write : Transcript.Write) (rest : List Transcript.Write)
    (progress : overlap.progress run = .writing answer (write :: rest)) :
    Moved overlap (.write run) ((overlap.advance run (.writing answer rest)).put run write)
  /-- A run without a write to come returns. -/
  | leave (run : Nat) (answer : Answer) (progress : overlap.progress run = .writing answer []) :
    Moved overlap (.leave run)
      (overlap.advance run (.returned answer overlap.playground.output))
  /-- A run that waits is given up. -/
  | abandon (run : Nat) (waits : (overlap.progress run).waits = true) :
    Moved overlap (.abandon run) (overlap.advance run .abandoned)

/-- A move that could be made is one of these. -/
theorem step_cases {before after : Overlap σ} {move : Move}
    (taken : before.step? move = some after) : before.Moved move after := by
  cases move with
  | begin run thread language code =>
    cases progress : before.progress run with
    | absent =>
      simp only [step?, progress, Option.some.injEq] at taken
      exact taken ▸ .begin run thread language code progress
    | _ => simp [step?, progress] at taken
  | settle run =>
    cases progress : before.progress run with
    | awaiting thread language code =>
      simp only [step?, progress, Option.some.injEq] at taken
      exact taken ▸ .settle run thread language code progress
    | _ => simp [step?, progress] at taken
  | resume run =>
    cases progress : before.progress run with
    | settled answer =>
      simp only [step?, progress, Option.some.injEq] at taken
      exact taken ▸ .resume run answer progress
    | _ => simp [step?, progress] at taken
  | write run =>
    cases progress : before.progress run with
    | writing answer rest =>
      cases rest with
      | nil => simp [step?, progress] at taken
      | cons write rest =>
        simp only [step?, progress, Option.some.injEq] at taken
        exact taken ▸ .write run answer write rest progress
    | _ => simp [step?, progress] at taken
  | leave run =>
    cases progress : before.progress run with
    | writing answer rest =>
      cases rest with
      | nil =>
        simp only [step?, progress, Option.some.injEq] at taken
        exact taken ▸ .leave run answer progress
      | cons write rest => simp [step?, progress] at taken
    | _ => simp [step?, progress] at taken
  | abandon run =>
    by_cases waits : (before.progress run).waits = true
    · simp only [step?, if_pos waits, Option.some.injEq] at taken
      exact taken ▸ .abandon run waits
    · simp [step?, waits] at taken

section Fields

variable (overlap : Overlap σ) (run : Nat)

omit [Runner σ]

/-- A run has come as far as it was advanced. -/
@[simp]
theorem progress_advance (progress : RunPoint) :
    (overlap.advance run progress).progress run = progress := if_pos rfl

/-- No other run is advanced. -/
theorem progress_advance_of_ne {other : Nat} (progress : RunPoint) (different : other ≠ run) :
    (overlap.advance run progress).progress other = overlap.progress other := if_neg different

@[simp]
theorem playground_advance (progress : RunPoint) :
    (overlap.advance run progress).playground = overlap.playground := rfl

@[simp]
theorem log_advance (progress : RunPoint) :
    (overlap.advance run progress).log = overlap.log := rfl

@[simp]
theorem progress_put (write : Transcript.Write) :
    (overlap.put run write).progress = overlap.progress := rfl

@[simp]
theorem playground_put (write : Transcript.Write) :
    (overlap.put run write).playground = overlap.playground.write write := rfl

@[simp]
theorem log_put (write : Transcript.Write) :
    (overlap.put run write).log = (run, write) :: overlap.log := rfl

@[simp]
theorem progress_become (python : σ) : (overlap.become python).progress = overlap.progress := rfl

@[simp]
theorem playground_become (python : σ) :
    (overlap.become python).playground = { overlap.playground with python } := rfl

@[simp]
theorem log_become (python : σ) : (overlap.become python).log = overlap.log := rfl

end Fields

/-! ## A run alone -/

/-- A run of a playground leaves the text of its answer. -/
theorem output_run (playground : Playground σ) (thread : Nat) (language : Language)
    (code : String) : (playground.run thread language code).output =
      (playground.answer thread language code).1.text :=
  Transcript.writeAll_reset playground.output _

/-- A run that nothing interferes with makes all its writes. -/
theorem after_writes {run : Nat} {answer : Answer} {rest : List Transcript.Write}
    {overlap : Overlap σ} (progress : overlap.progress run = .writing answer rest) :
    ∃ last, overlap.after? (List.replicate rest.length (.write run)) = some last ∧
      last.progress run = .writing answer [] ∧
      last.playground =
        { overlap.playground with output := overlap.playground.output.writeAll rest } := by
  induction rest generalizing overlap with
  | nil => exact ⟨overlap, rfl, progress, rfl⟩
  | cons write rest ih =>
    let next := (overlap.advance run (.writing answer rest)).put run write
    have writes : overlap.after? [.write run] = some next := by
      change overlap.step? (.write run) = _
      simp only [step?, progress]
      rfl
    have further : next.progress run = .writing answer rest := progress_advance overlap run _
    obtain ⟨last, reached, written, playground⟩ := ih further
    refine ⟨last, ?_, written, playground⟩
    rw [List.length_cons, List.replicate_succ']
    exact Moves.after_trans writes reached

/-- A run that nothing interferes with is one run of the playground. -/
theorem after_alone (overlap : Overlap σ) {run : Nat} (thread : Nat) (language : Language)
    (code : String) (absent : overlap.progress run = .absent) :
    let answer := (overlap.playground.answer thread language code).1
    ∃ last, overlap.after? (.leave run :: (List.replicate answer.writes.length (.write run) ++
        [.resume run, .settle run, .begin run thread language code])) = some last ∧
      last.playground = overlap.playground.run thread language code ∧
      last.progress run = .returned answer last.playground.output := by
  intro answer
  let begun := (overlap.advance run (.awaiting thread language code)).put run .reset
  let settled := (begun.advance run (.settled answer)).become
    (overlap.playground.answer thread language code).2
  let resumed := settled.advance run (.writing answer answer.writes)
  have begins : overlap.step? (.begin run thread language code) = some begun := by
    simp only [step?, absent]
    rfl
  have settles : begun.step? (.settle run) = some settled := by
    simp only [step?, begun, progress_put, progress_advance]
    rfl
  have resumes : settled.step? (.resume run) = some resumed := by
    simp only [step?, settled, progress_become, progress_advance]
    rfl
  have waited : overlap.after? [.resume run, .settle run, .begin run thread language code] =
      some resumed :=
    Moves.after_cons.mpr ⟨settled, Moves.after_cons.mpr ⟨begun, begins, settles⟩, resumes⟩
  obtain ⟨written, reached, writing, playground⟩ := after_writes (progress_advance settled run _)
  let returned := written.advance run (.returned answer written.playground.output)
  have leaves : written.step? (.leave run) = some returned := by
    simp only [step?, writing]
    rfl
  have moved := Moves.after_cons.mpr ⟨written, Moves.after_trans waited reached, leaves⟩
  exact ⟨returned, moved, playground, progress_advance written run _⟩

/-! ## Any number of runs -/

/-- A playground on which no run has begun. -/
def still (playground : Playground σ) : Overlap σ := { playground }

/-- A history in which the work of a run came to an answer: what the playground had for its code by
then. -/
def AnsweredWith (start : Overlap σ) (history : List Move) (run : Nat) (answer : Answer) : Prop :=
  ∃ earlier before thread language code, .settle run :: earlier <:+ history ∧
    start.after? earlier = some before ∧ .begin run thread language code ∈ earlier ∧
    answer = (before.playground.answer thread language code).1

/-- What a run came to stays so. -/
theorem AnsweredWith.cons {start : Overlap σ} {history : List Move} {run : Nat} {answer : Answer}
    (came : AnsweredWith start history run answer) (latest : Move) :
    AnsweredWith start (latest :: history) run answer := by
  obtain ⟨earlier, before, thread, language, code, part, rest⟩ := came
  exact ⟨earlier, before, thread, language, code, part.trans (List.suffix_cons _ _), rest⟩

/-- What a log holds of one run. -/
def entriesOf (run : Nat) (log : List (Nat × Transcript.Write)) : List (Nat × Transcript.Write) :=
  log.filter (·.1 = run)

/-- An entry of the run comes to the others of it. -/
theorem entriesOf_cons_self {run : Nat} {entry : Nat × Transcript.Write} (own : entry.1 = run)
    (log : List (Nat × Transcript.Write)) :
    entriesOf run (entry :: log) = entry :: entriesOf run log :=
  List.filter_cons_of_pos (decide_eq_true own)

/-- An entry of another run does not. -/
theorem entriesOf_cons_of_ne {run : Nat} {entry : Nat × Transcript.Write} (other : entry.1 ≠ run)
    (log : List (Nat × Transcript.Write)) : entriesOf run (entry :: log) = entriesOf run log :=
  List.filter_cons_of_neg (by simpa using other)

/-- The writes that a run has made, in their order. -/
def writesOf (run : Nat) (log : List (Nat × Transcript.Write)) : List Transcript.Write :=
  ((entriesOf run log).map Prod.snd).reverse

/-- A run makes one write more. -/
@[simp]
theorem writesOf_cons_self (run : Nat) (write : Transcript.Write)
    (log : List (Nat × Transcript.Write)) :
    writesOf run ((run, write) :: log) = writesOf run log ++ [write] := by
  rw [writesOf, @entriesOf_cons_self run (run, write) rfl, List.map_cons, List.reverse_cons]
  rfl

/-- No other run makes the write. -/
theorem writesOf_cons_of_ne {run writer : Nat} (different : writer ≠ run)
    (write : Transcript.Write) (log : List (Nat × Transcript.Write)) :
    writesOf run ((writer, write) :: log) = writesOf run log := by
  rw [writesOf, @entriesOf_cons_of_ne run (writer, write) different]
  rfl

/-- A move leaves the other runs where they are, and writes nothing for them. -/
theorem Moved.others {before after : Overlap σ} {move : Move} (moved : before.Moved move after)
    {run : Nat} (different : run ≠ move.run) :
    after.progress run = before.progress run ∧
      writesOf run after.log = writesOf run before.log := by
  cases moved with
  | begin mover _ _ _ _ | write mover _ _ _ _ =>
    exact ⟨progress_advance_of_ne before mover _ different,
      writesOf_cons_of_ne (Ne.symm different) _ _⟩
  | settle mover _ _ _ _ | resume mover _ _ | leave mover _ _ | abandon mover _ =>
    exact ⟨progress_advance_of_ne before mover _ different, rfl⟩

/-- What a history tells of a run that has come so far, and what the run has written by then. -/
inductive WrittenSoFar (start : Overlap σ) (history : List Move) (run : Nat) :
    RunPoint → List Transcript.Write → Prop where
  /-- It has written nothing. -/
  | absent : WrittenSoFar start history run .absent []
  /-- It waits for what becomes of the code that it began with. -/
  | awaiting {thread : Nat} {language : Language} {code : String} :
      .begin run thread language code ∈ history →
      WrittenSoFar start history run (.awaiting thread language code) [.reset]
  /-- Its answer is what its work came to. -/
  | settled {answer : Answer} : AnsweredWith start history run answer →
      WrittenSoFar start history run (.settled answer) [.reset]
  /-- It has written as much of its answer as it does not still have to write. -/
  | writing {answer : Answer} {made rest : List Transcript.Write} :
      AnsweredWith start history run answer → made ++ rest = answer.writes →
      WrittenSoFar start history run (.writing answer rest) (.reset :: made)
  /-- It has written its answer. -/
  | returned {answer : Answer} {shown : String} : AnsweredWith start history run answer →
      WrittenSoFar start history run (.returned answer shown) (.reset :: answer.writes)
  /-- It was given up before it wrote anything of its answer. -/
  | abandoned : WrittenSoFar start history run .abandoned [.reset]

/-- What is told of a run stays so when others move. -/
theorem WrittenSoFar.cons {start : Overlap σ} {history : List Move} {run : Nat}
    {progress : RunPoint} {writes : List Transcript.Write}
    (told : WrittenSoFar start history run progress writes) (latest : Move) :
    WrittenSoFar start (latest :: history) run progress writes := by
  cases told with
  | absent => exact .absent
  | awaiting begun => exact .awaiting (List.mem_cons_of_mem latest begun)
  | settled came => exact .settled (came.cons latest)
  | writing came split => exact .writing (came.cons latest) split
  | returned came => exact .returned (came.cons latest)
  | abandoned => exact .abandoned

/-- What is told of a run goes on with a move of the run. -/
theorem WrittenSoFar.moved {start before after : Overlap σ} {earlier : List Move} {latest : Move}
    {run : Nat}
    (told : WrittenSoFar start earlier run (before.progress run) (writesOf run before.log))
    (led : start.after? earlier = some before) (moved : before.Moved latest after)
    (own : run = latest.run) :
    WrittenSoFar start (latest :: earlier) run (after.progress run) (writesOf run after.log) := by
  obtain ⟨writes, wrote⟩ : ∃ writes, writesOf run before.log = writes := ⟨_, rfl⟩
  rw [wrote] at told
  cases moved with
  | begin mover thread language code progress =>
    obtain rfl : run = mover := own
    rw [progress] at told
    cases told
    rw [progress_put, progress_advance, log_put, writesOf_cons_self, log_advance, wrote]
    exact .awaiting List.mem_cons_self
  | settle mover thread language code progress =>
    obtain rfl : run = mover := own
    rw [progress] at told
    cases told with
    | awaiting begun =>
      rw [progress_become, progress_advance, log_become, log_advance, wrote]
      exact .settled ⟨earlier, before, thread, language, code, List.suffix_refl _, led, begun, rfl⟩
  | resume mover answer progress =>
    obtain rfl : run = mover := own
    rw [progress] at told
    cases told with
    | settled came =>
      rw [progress_advance, log_advance, wrote]
      exact .writing (came.cons _) rfl
  | write mover answer write rest progress =>
    obtain rfl : run = mover := own
    rw [progress] at told
    cases told with
    | @writing _ made _ came split =>
      rw [progress_put, progress_advance, log_put, writesOf_cons_self, log_advance, wrote]
      have further : (made ++ [write]) ++ rest = answer.writes := by
        rw [← split, List.append_assoc, List.singleton_append]
      exact .writing (came.cons _) further
  | leave mover answer progress =>
    obtain rfl : run = mover := own
    rw [progress] at told
    cases told with
    | writing came split =>
      rw [List.append_nil] at split
      rw [progress_advance, log_advance, wrote, split]
      exact .returned (came.cons _)
  | abandon mover waits =>
    obtain rfl : run = mover := own
    have cleared : writes = [.reset] := by
      generalize before.progress run = progress at told waits
      cases told with
      | awaiting _ | settled _ | abandoned => rfl
      | absent | writing _ _ | returned _ => cases waits
    rw [progress_advance, log_advance, wrote, cleared]
    exact .abandoned

/-- A history tells how far each of its runs has come, and what it has written. -/
theorem writtenSoFar_after (playground : Playground σ) : ∀ history last,
    (still playground).after? history = some last →
    ∀ run,
      WrittenSoFar (still playground) history run (last.progress run) (writesOf run last.log) := by
  apply Moves.after_induction
  · exact fun run => .absent
  · intro earlier before latest last led ih taken run
    have moved := step_cases taken
    by_cases own : run = latest.run
    · exact (ih run).moved led moved own
    · rw [(moved.others own).1, (moved.others own).2]
      exact (ih run).cons latest

/-- No run changes the settings of scripts. -/
theorem script_after (playground : Playground σ) : ∀ history last,
    (still playground).after? history = some last →
    last.playground.script = playground.script := by
  apply Moves.after_induction
  · rfl
  · intro earlier before latest last led ih taken
    cases step_cases taken <;> exact ih

end Overlap

end Scratchpad
