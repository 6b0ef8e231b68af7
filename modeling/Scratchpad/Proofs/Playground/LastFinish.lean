import Scratchpad.Playground.Overlap
import Scratchpad.Proofs.Playground.LatestRun

/-!
# The last of overlapping runs to finish

A run of a script, or of a snippet by the remote service, writes once: a text that takes the place
of everything. So whatever the order of their moves, and whichever of them are given up, runs like
these never mix: nothing is shown if a run began after the last of those writes, and otherwise the
text of the run that made it, whole and alone.
-/
namespace Scratchpad.Overlap

/-- The run that wrote its text last, unless another one began after that. -/
def lastFinish : List Move → Option Nat
  | [] | .begin .. :: _ => none
  | .write run :: _ => some run
  | _ :: earlier => lastFinish earlier

/-- Every run that began is one of a script, or the service runs Python. -/
def Replacing (settings : Settings) (history : List Move) : Prop :=
  ∀ run thread language code, .begin run thread language code ∈ history →
    language = .javascript ∨ settings.pythonMode = .remote

/-- The runs of an earlier part of a history are like those of the history. -/
theorem Replacing.of_suffix {settings : Settings} {earlier history : List Move}
    (replacing : Replacing settings history) (part : earlier <:+ history) :
    Replacing settings earlier :=
  fun run thread language code begun => replacing run thread language code (part.mem begun)

/-- A text is a run's own: the run would leave it if it ran alone in the playground as it was when
its work was done. A script leaves what comes of its evaluation, and a snippet for the service what
comes of its request. -/
def OwnText (settings : Settings) (start : Overlap Backend) (history : List Move) (run : Nat)
    (text : String) : Prop :=
  ∃ earlier before thread language code, .settle run :: earlier <:+ history ∧
    start.after? earlier = some before ∧ .begin run thread language code ∈ earlier ∧
    text = (before.playground.run thread language code).output ∧
    match language with
    | .javascript => text = (Script.evaluate settings.script code).render thread
    | .python => ∃ remote, before.playground.python = .remote remote ∧ text = remote.next.text

/-- A run's own text stays so. -/
theorem OwnText.cons {settings : Settings} {start : Overlap Backend} {history : List Move}
    {run : Nat} {text : String} (own : OwnText settings start history run text) (latest : Move) :
    OwnText settings start (latest :: history) run text := by
  obtain ⟨earlier, before, thread, language, code, part, rest⟩ := own
  exact ⟨earlier, before, thread, language, code, part.trans (List.suffix_cons _ _), rest⟩

section

variable {settings : Settings} {fetch : String → Guest.Fetched} {deliveries : List Delivery}

/-- No run puts another runner in the place of the service. -/
theorem remote_after (mode : settings.pythonMode = .remote) : ∀ history last,
    (still (.ofSettings settings fetch deliveries)).after? history = some last →
    ∃ remote, last.playground.python = .remote remote := by
  apply Moves.after_induction
  · refine ⟨{ endpoint := settings.endpoint, deliveries }, ?_⟩
    change Backend.ofSettings settings fetch deliveries = _
    rw [Backend.ofSettings, mode]
  · intro earlier before latest last led ih taken
    cases step_cases taken with
    | settle run thread language code _ =>
      obtain ⟨remote, backend⟩ := ih
      cases language with
      | javascript => exact ⟨remote, backend⟩
      | python =>
        refine ⟨(remote.run code).2, ?_⟩
        rw [playground_become, Playground.answer, backend]
        rfl
    | _ => exact ih

/-- What the work of such a run comes to is a text that takes the place of everything: its own. -/
theorem ownText_of_answeredWith {history : List Move} {run : Nat} {answer : Answer}
    (replacing : Replacing settings history)
    (came : AnsweredWith (still (.ofSettings settings fetch deliveries)) history run answer) :
    ∃ text, answer.writes = [.replace text] ∧
      OwnText settings (still (.ofSettings settings fetch deliveries)) history run text := by
  obtain ⟨earlier, before, thread, language, code, part, led, begun, rfl⟩ := came
  have among := part.mem (List.mem_cons_of_mem _ begun)
  cases language with
  | javascript =>
    have settled : before.playground.script = settings.script := script_after _ earlier before led
    refine ⟨_, rfl, earlier, before, thread, .javascript, code, part, led, begun, rfl, ?_⟩
    rw [settled]
  | python =>
    have mode : settings.pythonMode = .remote := (replacing _ _ _ _ among).resolve_left nofun
    obtain ⟨remote, backend⟩ := remote_after mode earlier before led
    have answered : (before.playground.answer thread .python code).1.writes =
        [.replace remote.next.text] := by
      rw [Playground.answer, backend]
      rfl
    have text := (Playground.output_run_remote _ backend thread code).symm
    exact ⟨_, answered, earlier, before, thread, .python, code, part, led, begun, text, remote,
      backend, rfl⟩

/-- What the transcript shows after a history: nothing, or the own text of the run that finished
last. -/
def ShowsLastFinish (settings : Settings) (start : Overlap Backend) (history : List Move)
    (output : Transcript) : Prop :=
  match lastFinish history with
  | none => output = ""
  | some run => OwnText settings start history run output

/-- A move that neither begins a run nor writes leaves what is shown as it is. -/
theorem ShowsLastFinish.cons {start : Overlap Backend} {earlier : List Move} {latest : Move}
    {output : Transcript} (shows : ShowsLastFinish settings start earlier output)
    (silent : lastFinish (latest :: earlier) = lastFinish earlier) :
    ShowsLastFinish settings start (latest :: earlier) output := by
  rw [ShowsLastFinish, silent]
  rw [ShowsLastFinish] at shows
  split at shows
  · exact shows
  · exact shows.cons latest

/-- Any number of runs of scripts and of snippets for the service overlap on one playground, in
whatever order they move and whichever of them are given up. Then nothing is shown if a run began
after the last one finished, and otherwise the own text of the run that finished last, and nothing
else. -/
theorem last_finish_decides (settings : Settings) (fetch : String → Guest.Fetched)
    (deliveries : List Delivery) (history : List Move) (last : Overlap Backend)
    (replacing : Replacing settings history)
    (reached : (still (.ofSettings settings fetch deliveries)).after? history = some last) :
    ShowsLastFinish settings (still (.ofSettings settings fetch deliveries)) history
      last.playground.output := by
  suffices all : ∀ history last,
      (still (.ofSettings settings fetch deliveries)).after? history = some last →
      Replacing settings history →
      ShowsLastFinish settings (still (.ofSettings settings fetch deliveries)) history
        last.playground.output from
    all history last reached replacing
  apply Moves.after_induction
  · exact fun _ => rfl
  · intro earlier before latest last led ih taken replacing
    have shown := ih (replacing.of_suffix (List.suffix_cons latest earlier))
    cases step_cases taken with
    | begin run thread language code _ => rfl
    | write run answer write rest progress =>
      have told := writtenSoFar_after _ earlier before led run
      rw [progress] at told
      generalize writesOf run before.log = writes at told
      cases told with
      | @writing _ made _ came split =>
        obtain ⟨text, whole, own⟩ :=
          ownText_of_answeredWith (replacing.of_suffix (List.suffix_cons _ _)) came
        rw [whole] at split
        -- The one write of the answer is still to come, so it is this one.
        cases made with
        | nil =>
          cases split
          exact own.cons (.write run)
        | cons first made => simp at split
    | settle _ _ _ _ _ | resume _ _ _ | leave _ _ _ | abandon _ _ => exact shown.cons rfl

end

/-- Settings under which the service runs Python. -/
def serviceSettings : Settings := { pythonMode := .remote }

/-- The answers to two requests. -/
def twoReplies : List Delivery :=
  [.answered (Text.Utf8.bytes "\x7b\"output\":\"fast\"\x7d"),
    .answered (Text.Utf8.bytes "\x7b\"error\":\"slow\"\x7d")]

/-- Two runs of the service, of which the one that began first finishes last, and a run that is
given up. -/
def overtaken : List Move :=
  [.write 0, .abandon 2, .resume 0, .leave 1, .write 1, .resume 1, .settle 0, .settle 1,
    .begin 2 9 .javascript "return 1", .begin 1 8 .python "", .begin 0 7 .python "sleep()"]

/-- What is shown is the text of the run that began first. -/
theorem last_finish_decides_overtaken :
    let start : Overlap Backend := still (.ofSettings serviceSettings (fun _ => .absent) twoReplies)
    Replacing serviceSettings overtaken ∧
      ∃ last, start.after? overtaken = some last ∧ last.playground.output = "slow" ∧
        OwnText serviceSettings start overtaken 0 last.playground.output := by
  intro start
  have replacing : Replacing serviceSettings overtaken := fun _ _ _ _ _ => .inr rfl
  have ran : (start.after? overtaken).map (·.playground.output) = some "slow" := by decide +kernel
  obtain ⟨last, reached, shown⟩ := Option.map_eq_some_iff.mp ran
  exact ⟨replacing, last, reached, shown, last_finish_decides serviceSettings (fun _ => .absent)
    twoReplies overtaken last replacing reached⟩

end Scratchpad.Overlap
