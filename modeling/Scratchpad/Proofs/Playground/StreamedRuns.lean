import Scratchpad.Playground.Overlap
import Scratchpad.Proofs.Playground.EmbeddedRun

/-!
# Overlapping runs that stream

A run in the embedded interpreter that succeeds adds its lines to whatever the transcript holds by
then, and takes nothing away. What is shown is therefore what the log holds since anybody last
cleared the transcript, by whichever runs it was written. A run that has returned decides what is
shown if nobody came between: the transcript was blank when it began to write, or its last write
took the place of everything, and no other run has written since. As long as all of its writes
stand, whatever else stands must add nothing.
-/
namespace Scratchpad.Overlap

/-- What stands of a log: what was written since the transcript was last cleared, with the text that
was put in the place of everything if that is how it was cleared. -/
def standing : List (Nat × Transcript.Write) → List (Nat × Transcript.Write)
  | [] => []
  | (run, write) :: earlier =>
    match write with
    | .reset => []
    | .replace text => [(run, .replace text)]
    | .append _ | .output _ | .error _ => (run, write) :: standing earlier

/-- The text that the writes of a log leave in an empty transcript. -/
def textOf (log : List (Nat × Transcript.Write)) : Transcript :=
  Transcript.writeAll "" (log.map Prod.snd).reverse

/-- The latest write is made to the text of the earlier ones. -/
theorem textOf_cons (run : Nat) (write : Transcript.Write)
    (earlier : List (Nat × Transcript.Write)) :
    textOf ((run, write) :: earlier) = (textOf earlier).write write := by
  rw [textOf, List.map_cons, List.reverse_cons, Transcript.writeAll_append]
  rfl

/-- What a write adds to a transcript, or puts in the place of one. -/
def added : Transcript.Write → String
  | .reset => ""
  | .append text | .replace text => text
  | .output line => line ++ "\n"
  | .error line => Transcript.errorMark ++ line ++ "\n"

/-- What entries of a log add, the earliest first. -/
def seen (entries : List (Nat × Transcript.Write)) : String :=
  String.join (entries.map fun entry => added entry.2).reverse

/-- The latest entry adds to what the earlier ones add. -/
theorem seen_cons (entry : Nat × Transcript.Write) (earlier : List (Nat × Transcript.Write)) :
    seen (entry :: earlier) = seen earlier ++ added entry.2 := by
  rw [seen, List.map_cons, List.reverse_cons, String.join_append, String.join_cons, String.join_nil,
    String.append_empty, seen]

/-- A log leaves what the entries of it that stand add. -/
theorem textOf_eq_seen (log : List (Nat × Transcript.Write)) :
    textOf log = seen (standing log) := by
  induction log with
  | nil => rfl
  | cons entry earlier ih =>
    obtain ⟨run, write⟩ := entry
    rw [textOf_cons]
    cases write with
    | reset => rfl
    | replace text =>
      rw [standing, seen_cons]
      exact String.empty_append.symm
    | append text =>
      rw [standing, seen_cons, ← ih]
      rfl
    | output line =>
      rw [standing, seen_cons, ← ih]
      exact String.append_assoc
    | error line =>
      rw [standing, seen_cons, ← ih]
      change textOf earlier ++ Transcript.errorMark ++ line ++ "\n" = _
      rw [added]
      simp only [String.append_assoc]

/-- The entries of one run add no more than all of them. -/
theorem length_seen_entriesOf_le (run : Nat) (entries : List (Nat × Transcript.Write)) :
    (seen (entriesOf run entries)).length ≤ (seen entries).length := by
  induction entries with
  | nil => exact Nat.le_refl _
  | cons entry earlier ih =>
    rw [seen_cons, String.length_append]
    by_cases own : entry.1 = run
    · rw [entriesOf_cons_self own, seen_cons, String.length_append]
      exact Nat.add_le_add_right ih _
    · rw [entriesOf_cons_of_ne own]
      exact Nat.le_add_right_of_le ih

/-- The entries of one run add what all of them add exactly if those of other runs add nothing. -/
theorem seen_entriesOf (run : Nat) (entries : List (Nat × Transcript.Write)) :
    seen (entriesOf run entries) = seen entries ↔
      ∀ entry ∈ entries, entry.1 ≠ run → added entry.2 = "" := by
  induction entries with
  | nil => exact iff_of_true rfl fun _ among => absurd among List.not_mem_nil
  | cons entry earlier ih =>
    rw [List.forall_mem_cons, ← ih, seen_cons]
    by_cases own : entry.1 = run
    · rw [entriesOf_cons_self own, seen_cons, String.append_left_inj]
      exact ⟨fun same => ⟨fun other => absurd own other, same⟩, And.right⟩
    · rw [entriesOf_cons_of_ne own]
      constructor
      · intro same
        have shorter := length_seen_entriesOf_le run earlier
        rw [same, String.length_append] at shorter
        have nothing : added entry.2 = "" := String.length_eq_zero_iff.mp (by omega)
        rw [nothing, String.append_empty] at same
        exact ⟨fun _ => nothing, same⟩
      · rintro ⟨nothing, same⟩
        rw [nothing own, String.append_empty, same]

/-- What stands comes last in a log, behind a blank transcript unless it holds a replacement. -/
theorem standing_split (log : List (Nat × Transcript.Write)) :
    ∃ earlier, log = standing log ++ earlier ∧
      (standing earlier = [] ∨ ∃ run text, (run, .replace text) ∈ standing log) := by
  induction log with
  | nil => exact ⟨[], rfl, .inl rfl⟩
  | cons entry rest ih =>
    obtain ⟨run, write⟩ := entry
    cases write with
    | reset => exact ⟨(run, .reset) :: rest, rfl, .inl rfl⟩
    | replace text => exact ⟨rest, rfl, .inr ⟨run, text, List.mem_singleton_self _⟩⟩
    | append _ | output _ | error _ =>
      obtain ⟨earlier, split, before⟩ := ih
      refine ⟨earlier, congrArg (List.cons _) split, before.imp id ?_⟩
      rintro ⟨replacer, text, stands⟩
      exact ⟨replacer, text, List.mem_cons_of_mem _ stands⟩

/-- What stands of a log stands behind a blank transcript, and behind any other one if it holds a
replacement. -/
theorem standing_append (log : List (Nat × Transcript.Write))
    {earlier : List (Nat × Transcript.Write)}
    (blank : standing earlier = [] ∨ ∃ run text, (run, .replace text) ∈ standing log) :
    standing (standing log ++ earlier) = standing log := by
  induction log with
  | nil =>
    obtain blank | ⟨_, _, stands⟩ := blank
    · exact blank
    · cases stands
  | cons entry rest ih =>
    obtain ⟨run, write⟩ := entry
    cases write with
    | reset =>
      obtain blank | ⟨_, _, stands⟩ := blank
      · exact blank
      · cases stands
    | replace text => rfl
    | append _ | output _ | error _ =>
      have inner : standing earlier = [] ∨ ∃ run text, (run, .replace text) ∈ standing rest := by
        refine blank.imp id ?_
        rintro ⟨replacer, text, stands⟩
        obtain ⟨⟩ | ⟨_, stands⟩ := stands
        exact ⟨replacer, text, stands⟩
      exact congrArg (List.cons _) (ih inner)

/-- What stands of a log is nothing but what stands of one run by itself. -/
def StandsAlone (run : Nat) (log : List (Nat × Transcript.Write)) : Prop :=
  standing log = standing (entriesOf run log)

/-- No other run has written since the first write of a run that stands, and the transcript was
blank before it, unless the run put a text in the place of everything. -/
def Undisturbed (run : Nat) (log : List (Nat × Transcript.Write)) : Prop :=
  ∃ earlier, log = standing (entriesOf run log) ++ earlier ∧
    (standing earlier = [] ∨ ∃ text, (run, .replace text) ∈ standing (entriesOf run log))

/-- What stands of one run by itself still stands of the whole log: nobody has cleared the
transcript since. -/
def Kept (run : Nat) (log : List (Nat × Transcript.Write)) : Prop :=
  standing (entriesOf run log) = entriesOf run (standing log)

/-- What stands of the writes of one run was written by the run. -/
theorem own_of_standing {run : Nat} {log : List (Nat × Transcript.Write)}
    {entry : Nat × Transcript.Write} (stands : entry ∈ standing (entriesOf run log)) :
    entry.1 = run := by
  obtain ⟨earlier, split, -⟩ := standing_split (entriesOf run log)
  have among : entry ∈ entriesOf run log := by
    rw [split]
    exact List.mem_append_left earlier stands
  exact of_decide_eq_true (List.mem_filter.mp among).2

/-- A log in which a run stands alone shows no line of any other run. -/
theorem StandsAlone.own {run : Nat} {log : List (Nat × Transcript.Write)}
    (alone : StandsAlone run log) : ∀ entry ∈ standing log, entry.1 = run := by
  intro entry stands
  rw [alone] at stands
  exact own_of_standing stands

/-- A run stands alone exactly if it was not disturbed. -/
theorem standsAlone_iff {run : Nat} {log : List (Nat × Transcript.Write)} :
    StandsAlone run log ↔ Undisturbed run log := by
  constructor
  · intro alone
    obtain ⟨earlier, split, before⟩ := standing_split log
    have blank : standing earlier = [] ∨ ∃ text, (run, .replace text) ∈ standing log := by
      refine before.imp id ?_
      rintro ⟨replacer, text, stands⟩
      obtain rfl : replacer = run := alone.own _ stands
      exact ⟨text, stands⟩
    rw [alone] at split blank
    exact ⟨earlier, split, blank⟩
  · rintro ⟨earlier, split, before⟩
    have blank : standing earlier = [] ∨
        ∃ replacer text, (replacer, .replace text) ∈ standing (entriesOf run log) :=
      before.imp id fun ⟨text, stands⟩ => ⟨run, text, stands⟩
    calc
      standing log = standing (standing (entriesOf run log) ++ earlier) := congrArg standing split
      _ = standing (entriesOf run log) := standing_append (entriesOf run log) blank

/-- A run that has just put a text in the place of everything is not disturbed. -/
theorem undisturbed_of_replacement (run : Nat) (text : String)
    (earlier : List (Nat × Transcript.Write)) :
    Undisturbed run ((run, .replace text) :: earlier) := by
  have own : standing (entriesOf run ((run, .replace text) :: earlier)) =
      [(run, .replace text)] := by
    rw [@entriesOf_cons_self run (run, .replace text) rfl]
    rfl
  rw [Undisturbed, own]
  exact ⟨earlier, rfl, .inr ⟨text, List.mem_singleton_self _⟩⟩

/-! ## Histories -/

/-- Once anything was written, the transcript shows what the log leaves in an empty one: the first
write is a clearing, as every run begins with it. -/
theorem output_after {σ : Type} [Runner σ] (playground : Playground σ) : ∀ history last,
    (still playground).after? history = some last →
    last.log = [] ∨ last.playground.output = textOf last.log := by
  apply Moves.after_induction
  · exact .inl rfl
  · intro earlier before latest last led ih taken
    cases step_cases taken with
    | begin run thread language code _ =>
      refine .inr ?_
      rw [log_put, textOf_cons]
      rfl
    | write run answer write rest progress =>
      obtain empty | shown := ih
      · have told := writtenSoFar_after playground earlier before led run
        rw [progress, empty] at told
        cases told
      · refine .inr ?_
        rw [log_put, textOf_cons, log_advance, ← shown]
        rfl
    | settle _ _ _ _ _ | resume _ _ _ | leave _ _ _ | abandon _ _ => exact ih

section

variable {playground : Playground Backend} {runner : EmbeddedRunner}

/-- No run changes an embedded interpreter whose sinks feed the transcript. -/
theorem python_after (backend : playground.python = .embedded runner)
    (feeding : runner.heard = none) : ∀ history last,
    (still playground).after? history = some last → last.playground.python = .embedded runner := by
  apply Moves.after_induction
  · exact backend
  · intro earlier before latest last led ih taken
    cases step_cases taken with
    | settle run thread language code _ =>
      cases language with
      | javascript => exact ih
      | python =>
        rw [playground_become, Playground.answer.eq_def, ih]
        change Backend.embedded (runner.answer (runner.embedded.runSource code)).2 = _
        rw [EmbeddedRunner.answer_of_feeding feeding]
    | _ => exact ih

/-- What the work of a run comes to leaves the text that the run would leave alone. -/
theorem text_of_answeredWith (backend : playground.python = .embedded runner)
    (feeding : runner.heard = none) {history : List Move} {run : Nat} {answer : Answer}
    (came : AnsweredWith (still playground) history run answer) :
    ∃ thread language code, .begin run thread language code ∈ history ∧
      answer.text = (playground.run thread language code).output := by
  obtain ⟨earlier, before, thread, language, code, part, led, begun, rfl⟩ := came
  have same : before.playground.answer thread language code =
      playground.answer thread language code := by
    rw [Playground.answer.eq_def, Playground.answer.eq_def, script_after _ earlier before led,
      python_after backend feeding earlier before led, backend]
  refine ⟨thread, language, code, part.mem (List.mem_cons_of_mem _ begun), ?_⟩
  rw [same, output_run]

/-- Any number of runs overlap on a playground with an embedded interpreter whose sinks feed the
transcript, in whatever order they move. When a run of them has returned, it has made all its
writes, and the transcript shows what stands of the log. Nothing but the run's own writes stands
exactly if the run was not disturbed, as it is not if it has just put a text in the place of
everything, and then the transcript shows what the run would have left alone. As long as nobody has
cleared away what it wrote, the transcript shows that exactly if other runs have added nothing. -/
theorem streamed_run_stands_alone_iff (backend : playground.python = .embedded runner)
    (feeding : runner.heard = none) (history : List Move) (last : Overlap Backend)
    (reached : (still playground).after? history = some last) (run : Nat) (answer : Answer)
    (shown : String) (returned : last.progress run = .returned answer shown) :
    writesOf run last.log = .reset :: answer.writes ∧
    last.playground.output = seen (standing last.log) ∧
    (StandsAlone run last.log ↔ Undisturbed run last.log) ∧
    (∀ text earlier, last.log = (run, .replace text) :: earlier → Undisturbed run last.log) ∧
    ∃ thread language code, .begin run thread language code ∈ history ∧
      let alone := (playground.run thread language code).output
      (Undisturbed run last.log → last.playground.output = alone) ∧
      (Kept run last.log → (last.playground.output = alone ↔
        ∀ entry ∈ standing last.log, entry.1 ≠ run → added entry.2 = "")) := by
  have told := writtenSoFar_after playground history last reached run
  rw [returned] at told
  obtain ⟨writes, wrote⟩ : ∃ writes, writesOf run last.log = writes := ⟨_, rfl⟩
  rw [wrote] at told
  cases told with
  | returned came =>
    have some : last.log ≠ [] := by
      intro empty
      rw [empty] at wrote
      cases wrote
    have shows : last.playground.output = seen (standing last.log) := by
      rw [← textOf_eq_seen]
      exact (output_after playground history last reached).resolve_left some
    obtain ⟨thread, language, code, begun, text⟩ := text_of_answeredWith backend feeding came
    have own : seen (standing (entriesOf run last.log)) =
        (playground.run thread language code).output := by
      calc
        seen (standing (entriesOf run last.log)) = textOf (entriesOf run last.log) :=
          (textOf_eq_seen _).symm
        _ = Transcript.writeAll "" (.reset :: answer.writes) := congrArg _ wrote
        _ = answer.text := Transcript.writeAll_reset "" answer.writes
        _ = (playground.run thread language code).output := text
    refine ⟨wrote, shows, standsAlone_iff, ?_, thread, language, code, begun, ?_, ?_⟩
    · intro text earlier log
      rw [log]
      exact undisturbed_of_replacement run text earlier
    · intro undisturbed
      rw [shows, standsAlone_iff.mpr undisturbed, own]
    · intro kept
      rw [shows, ← own, kept, ← seen_entriesOf]
      exact eq_comm

end

/-- A program that prints its code. -/
def echoes : Guest.Program where
  memory := some 1
  table := none
  unresolved := false
  entry := .proper
  actions := fun arguments => arguments.getLast?.toList.map fun code =>
    .write .output (Text.Utf8.bytes (code ++ "\n"))
  ending := .returns

/-- A runner with that program, feeding the transcript. -/
def echoRunner : EmbeddedRunner where
  embedded := {
    settings := {}
    fetched := .image (.program echoes)
    life := .loaded (some echoes) }

/-- A playground with that runner. -/
def echoPlayground : Playground Backend := { script := {}, python := .embedded echoRunner }

/-- A run that streams and returns while another one waits is not disturbed, and leaves the text
that it leaves alone. -/
theorem streamed_run_stands_alone_waiting :
    let history : List Move := [.leave 1, .write 1, .resume 1, .settle 1, .settle 0,
      .begin 1 8 .python "b", .begin 0 7 .python "a"]
    ∃ last answer shown, (still echoPlayground).after? history = some last ∧
      last.progress 1 = .returned answer shown ∧ Undisturbed 1 last.log ∧
      last.playground.output = (echoPlayground.run 8 .python "b").output := by
  intro history
  have ran : ((still echoPlayground).after? history).map
      (fun last => (last.log, last.progress 1 matches .returned ..)) =
        some ([(1, .output "b"), (1, .reset), (0, .reset)], true) := by
    decide +kernel
  obtain ⟨last, reached, seen⟩ := Option.map_eq_some_iff.mp ran
  obtain ⟨log, leaves⟩ := Prod.mk.inj seen
  cases returned : last.progress 1 with
  | returned answer shown =>
    have undisturbed : Undisturbed 1 last.log := by
      rw [log]
      exact ⟨[(1, .reset), (0, .reset)], rfl, .inl rfl⟩
    obtain ⟨-, -, -, -, thread, language, code, begun, shows, -⟩ :=
      streamed_run_stands_alone_iff rfl rfl history last reached 1 answer shown returned
    obtain ⟨rfl, rfl, rfl⟩ : thread = 8 ∧ language = .python ∧ code = "b" := by
      simpa [history] using begun
    exact ⟨last, answer, shown, reached, returned, undisturbed, shows undisturbed⟩
  | _ =>
    rw [returned] at leaves
    cases leaves

/-- Two runs stream their lines after both have cleared the transcript: the one that returns last
leaves the line of the other one as well, which it would not have done alone. -/
theorem interleaved_streams_mix :
    let history : List Move := [.leave 1, .write 1, .leave 0, .write 0, .resume 1, .resume 0,
      .settle 1, .settle 0, .begin 1 8 .python "b", .begin 0 7 .python "a"]
    ((still echoPlayground).after? history).map (·.playground.output) = some "a\nb\n" ∧
      (echoPlayground.run 8 .python "b").output = "b\n" := by
  decide +kernel

end Scratchpad.Overlap
