import Scratchpad.Language
import Scratchpad.Playground.Runner
import Scratchpad.Script.Evaluation

/-!
# The playground and its panel

A playground routes runs by language and owns the transcript: a run clears it, lets the runner of
its language write, and shows what is there afterwards. A panel adds the selected language and the
code; selecting a language never touches the code.
-/
namespace Scratchpad

/-- `Playground` — a playground over a runner of Python. -/
structure Playground (σ : Type) where
  output : Transcript := ""
  script : ScriptSettings
  python : σ

/-- `Playground::from_config` — the playground that settings describe. -/
def Playground.ofSettings (settings : Settings) (fetch : String → Guest.Fetched)
    (deliveries : List Delivery) : Playground Backend where
  script := settings.script
  python := .ofSettings settings fetch deliveries

namespace Playground

variable {σ : Type} [Runner σ]

/-- What a run of a snippet writes after the transcript was cleared, and the Python runner after
it. A script runs on a thread with a number. -/
def answer (playground : Playground σ) (thread : Nat) (language : Language) (code : String) :
    Answer × σ :=
  match language with
  | .javascript =>
    ({ replacement := some ((Script.evaluate playground.script code).render thread) },
      playground.python)
  | .python => Runner.run playground.python code

/-- The playground after a run that came to an answer and left a Python runner behind. -/
def answered (playground : Playground σ) (answer : Answer) (python : σ) : Playground σ :=
  { playground with
    output := playground.output.writeAll (.reset :: answer.writes)
    python }

/-- `Playground::run` — the playground after a run. -/
def run (playground : Playground σ) (thread : Nat) (language : Language) (code : String) :
    Playground σ :=
  let (answer, python) := playground.answer thread language code
  playground.answered answer python

/-- `Playground::mount` — the playground after it was mounted. -/
def mount (playground : Playground σ) : Playground σ :=
  let (writes, python) := Runner.mount playground.python
  { playground with output := playground.output.writeAll writes, python }

/-- The playground after a write to its transcript. -/
def write (playground : Playground σ) (write : Transcript.Write) : Playground σ :=
  { playground with output := playground.output.write write }

end Playground

/-- `TryItPanel` — what a panel holds for one visitor. -/
structure Panel (σ : Type) where
  language : Language := .initial
  code : String := ""
  playground : Playground σ

namespace Panel

variable {σ : Type} [Runner σ]

/-- `TryItPanel::new` — a panel on a playground: nothing selected and no code. -/
def ofPlayground (playground : Playground σ) : Panel σ := { playground }

/-- `TryItPanel::select_language` — select a language. -/
def select (panel : Panel σ) (language : Language) : Panel σ := { panel with language }

/-- Select the language that a text names; the selection stays if there is none. -/
def selectNamed (panel : Panel σ) (text : String) : Except Failure (Panel σ) :=
  match Language.parse text with
  | .ok language => .ok (panel.select language)
  | .error name => .error (.unknownLanguage name)

/-- `TryItPanel::set_code` — put a text in the place of the code. -/
def setCode (panel : Panel σ) (code : String) : Panel σ := { panel with code }

/-- `TryItPanel::type_text` — add a text to the code. -/
def typeText (panel : Panel σ) (text : String) : Panel σ := { panel with code := panel.code ++ text }

/-- `TryItPanel::output` — the text of the output area. -/
def output (panel : Panel σ) : String := panel.playground.output

/-- `TryItPanel::run_enabled` — whether the run control is enabled. -/
def runEnabled (panel : Panel σ) : Bool := !Runner.isLoading panel.playground.python

/-- `TryItPanel::run_label` — the label of the run control. -/
def runLabel (panel : Panel σ) : String := if panel.runEnabled then "Run" else "Loading..."

/-- The panel after its playground was mounted. -/
def mount (panel : Panel σ) : Panel σ := { panel with playground := panel.playground.mount }

/-- `TryItPanel::run` — run the code in the selected language: the text that the transcript holds at
the end of the run, and the panel then. -/
def run (panel : Panel σ) (thread : Nat) : String × Panel σ :=
  let playground := panel.playground.run thread panel.language panel.code
  (playground.output, { panel with playground })

/-- The text that a run of the panel's code returns. -/
def runText (panel : Panel σ) (thread : Nat) : String := (panel.run thread).1

end Panel

end Scratchpad
