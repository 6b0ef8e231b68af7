import Scratchpad.CommandLine.Arguments
import Scratchpad.Playground.Panel

/-!
# A run of the command

The command is a session of one run: it selects the language, takes the snippet as the code, mounts
the playground and runs. Only a Python snippet whose embedded interpreter cannot be loaded ends the
command with a failure before the run.
-/
namespace Scratchpad.CommandLine

/-- What the command finds around it. -/
structure Surroundings where
  /-- The bytes of a file. -/
  file : String → Option (List UInt8)
  /-- The bytes of its input. -/
  input : List UInt8
  /-- What the place of an interpreter gives. -/
  fetch : String → Guest.Fetched
  /-- What becomes of the requests to a service. -/
  deliveries : List Delivery

/-- Surroundings without any file, input or service. -/
def Surroundings.nothing : Surroundings where
  file _ := none
  input := []
  fetch _ := .absent
  deliveries := []

/-- What the command leaves behind. -/
structure Outcome where
  status : Nat
  output : String
  /-- The first line of its error stream. -/
  complaint : String := ""
  /-- The bodies of the requests that arrived. -/
  arrived : List String := []
deriving DecidableEq, Repr

/-- The status of a success. -/
def successStatus : Nat := 0

/-- The status of a failure. -/
def failureStatus : Nat := 1

/-- The status of a command line that cannot be read. -/
def usageStatus : Nat := 2

/-- `playground::print_output` — a text as it is printed: its last line is ended if there is one. -/
def printed (text : String) : String :=
  if text = "" || text.toList.getLast? = some '\n' then text else text ++ "\n"

/-- `Cli::read_code` — the snippet, or what the command says when it cannot be read. -/
def readCode (surroundings : Surroundings) (options : Options) : Except String String :=
  match options.file with
  | some name =>
    match (surroundings.file name).bind Text.Utf8.string? with
    | some code => .ok code
    | none => .error ("Error: failed to read " ++ name)
  | none =>
    match Text.Utf8.string? surroundings.input with
    | some code => .ok code
    | none => .error "Error: failed to read snippet from stdin"

/-- The panel of a command before its run. -/
def panel (surroundings : Surroundings) (options : Options) (code : String) : Panel Backend :=
  let playground :=
    Playground.ofSettings options.settings surroundings.fetch surroundings.deliveries
  (((Panel.ofPlayground playground).select options.language).setCode code).mount

/-- Whether an interpreter cannot be loaded. -/
def Backend.hasFailed : Backend → Bool
  | .embedded runner => runner.embedded.stage = .failed
  | .remote _ => false

/-- The requests that arrived at a runner's service. -/
def Backend.arrived : Backend → List String
  | .embedded _ => []
  | .remote remote => remote.arrived

/-- The run of a command with a snippet. -/
def session (surroundings : Surroundings) (options : Options) (code : String) : Outcome :=
  let panel := panel surroundings options code
  if options.language = .python ∧ Backend.hasFailed panel.playground.python then
    { status := failureStatus, output := printed panel.output }
  else
    let (shown, panel) := panel.run 0
    { status := successStatus
      output := printed shown
      arrived := Backend.arrived panel.playground.python }

/-- `playground::main` — the run of the command. -/
def run (surroundings : Surroundings) (arguments : List String) : Outcome :=
  match read arguments with
  | .error (.fault fault) => { status := usageStatus, output := "", complaint := fault.message }
  | .error (.help long) => { status := successStatus, output := helpText long }
  | .error .version => { status := successStatus, output := versionText }
  | .ok options =>
    match readCode surroundings options with
    | .error complaint => { status := failureStatus, output := "", complaint }
    | .ok code => session surroundings options code

end Scratchpad.CommandLine
