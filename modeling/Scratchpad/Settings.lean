import Scratchpad.TimeSpan

/-!
# Settings of a playground

What can be set before a playground is built, with the value that holds when nothing is set.
-/
namespace Scratchpad

/-- `PythonMode` — where Python runs. -/
inductive PythonMode where
  | embedded
  | remote
deriving DecidableEq, Repr, Inhabited

/-- The name of a mode in a setting. -/
def PythonMode.name : PythonMode → String
  | .embedded => "embedded"
  | .remote => "remote"

/-- The mode of a name. -/
def PythonMode.ofName? (name : String) : Option PythonMode :=
  if name = "embedded" then some .embedded else if name = "remote" then some .remote else none

/-- `InterpreterConfig` — where the interpreter is and what a run of it may use. -/
structure InterpreterSettings where
  /-- Path or address of the interpreter. -/
  location : String := "assets/rustpython.wasm"
  /-- The longest time of a run. -/
  timeout : TimeSpan := .ofSecs 30
  /-- The largest linear memory, in bytes. -/
  maxMemory : Nat := 64 * 1024 * 1024
  /-- The number of instructions of a run, unlimited if absent. -/
  maxFuel : Option Nat := none
  /-- The number of bytes kept of each stream. -/
  maxOutput : Nat := 1024 * 1024
deriving DecidableEq, Repr, Inhabited

/-- `JavaScriptConfig` — what a script may use. -/
structure ScriptSettings where
  /-- The longest time of a run, unlimited if absent. -/
  timeout : Option TimeSpan := none
  /-- The largest heap in bytes, unlimited if absent. -/
  maxMemory : Option Nat := none
deriving DecidableEq, Repr, Inhabited

/-- `PlaygroundConfig` — the settings of a playground. -/
structure Settings where
  pythonMode : PythonMode := .remote
  /-- The address of the remote service. -/
  endpoint : String := "http://127.0.0.1:5000/api/python"
  /-- The longest time of a request, unlimited if absent. -/
  requestTimeout : Option TimeSpan := none
  interpreter : InterpreterSettings := {}
  script : ScriptSettings := {}
deriving DecidableEq, Repr, Inhabited

/-- `PlaygroundConfigBuilder` — one change of the settings. -/
inductive Setting where
  | pythonMode (value : PythonMode)
  | endpoint (value : String)
  | requestTimeout (value : TimeSpan)
  | location (value : String)
  | timeout (value : TimeSpan)
  | maxMemory (value : Nat)
  | maxFuel (value : Nat)
  | maxOutput (value : Nat)
  | scriptTimeout (value : TimeSpan)
  | scriptMaxMemory (value : Nat)
deriving DecidableEq, Repr

namespace Settings

/-- The settings after one change. -/
def apply (settings : Settings) : Setting → Settings
  | .pythonMode value => { settings with pythonMode := value }
  | .endpoint value => { settings with endpoint := value }
  | .requestTimeout value => { settings with requestTimeout := some value }
  | .location value =>
    { settings with interpreter := { settings.interpreter with location := value } }
  | .timeout value =>
    { settings with interpreter := { settings.interpreter with timeout := value } }
  | .maxMemory value =>
    { settings with interpreter := { settings.interpreter with maxMemory := value } }
  | .maxFuel value =>
    { settings with interpreter := { settings.interpreter with maxFuel := some value } }
  | .maxOutput value =>
    { settings with interpreter := { settings.interpreter with maxOutput := value } }
  | .scriptTimeout value =>
    { settings with script := { settings.script with timeout := some value } }
  | .scriptMaxMemory value =>
    { settings with script := { settings.script with maxMemory := some value } }

/-- `PlaygroundConfigBuilder::build` — the settings after changes in order, a later change replacing
an earlier one. -/
def ofChanges (changes : List Setting) : Settings := changes.foldl apply {}

end Settings

end Scratchpad
