import Scratchpad.Failure
import Scratchpad.Language
import Scratchpad.Settings

/-!
# Options of the command

The options that the command takes, what each of them is called in a message, and how the text of
a value is read. A number is decimal, may have a plus sign in front, and fits in 64 bits.
-/
namespace Scratchpad.CommandLine

/-- What a value on the command line is for. -/
inductive Item where
  | file
  | language
  | pythonMode
  | endpoint
  | requestTimeout
  | location
  | timeout
  | maxMemory
  | scriptTimeout
deriving DecidableEq, Repr

namespace Item

/-- Every option with a value. -/
def options : List Item :=
  [.language, .pythonMode, .endpoint, .requestTimeout, .location, .timeout, .maxMemory,
    .scriptTimeout]

/-- The long name of an option. -/
def longName : Item → String
  | .file => ""
  | .language => "language"
  | .pythonMode => "python-mode"
  | .endpoint => "endpoint"
  | .requestTimeout => "request-timeout"
  | .location => "index-url"
  | .timeout => "timeout"
  | .maxMemory => "max-memory"
  | .scriptTimeout => "js-timeout"

/-- The option of a letter. -/
def ofLetter? (letter : Char) : Option Item := if letter = 'l' then some .language else none

/-- What stands for the value of an option. -/
def valueName : Item → String
  | .file => "FILE"
  | .language => "LANGUAGE"
  | .pythonMode => "PYTHON_MODE"
  | .endpoint => "ENDPOINT"
  | .requestTimeout | .timeout => "SECS"
  | .location => "INDEX_URL"
  | .maxMemory => "MIB"
  | .scriptTimeout => "MILLIS"

/-- What an item is called in a message. -/
def title : Item → String
  | .file => "[FILE]"
  | item => "--" ++ item.longName ++ " <" ++ item.valueName ++ ">"

end Item

/-- What is wrong with a command line. -/
inductive UsageFault where
  | unexpectedArgument (argument : String)
  /-- A flag without a value got one. -/
  | unexpectedValue (value flag : String)
  | missingValue (item : Item)
  | repeated (item : Item)
  | invalidValue (item : Item) (value : String) (reason : Option String)
deriving DecidableEq, Repr

/-- The first line that is shown of a fault. -/
def UsageFault.message : UsageFault → String
  | .unexpectedArgument argument => "error: unexpected argument '" ++ argument ++ "' found"
  | .unexpectedValue value flag =>
    "error: unexpected value '" ++ value ++ "' for '" ++ flag ++
      "' found; no more were expected"
  | .missingValue item =>
    "error: a value is required for '" ++ item.title ++ "' but none was supplied"
  | .repeated item => "error: the argument '" ++ item.title ++ "' cannot be used multiple times"
  | .invalidValue item value reason =>
    "error: invalid value '" ++ value ++ "' for '" ++ item.title ++ "'" ++
      (match reason with
      | some reason => ": " ++ reason
      | none => "")

/-- `Cli` — everything that a command line can set. -/
structure Options where
  /-- The file of the snippet; without one it is read from the input. -/
  file : Option String := none
  language : Language := .initial
  pythonMode : PythonMode := .remote
  endpoint : String := ({} : Settings).endpoint
  requestTimeout : Option Nat := none
  location : String := ({} : InterpreterSettings).location
  /-- The longest time of a Python run, in seconds. -/
  timeout : Nat := 30
  /-- The largest memory of a Python run, in units of 2 ^ 20 bytes. -/
  maxMemory : Nat := 64
  /-- The longest time of a script, in milliseconds. -/
  scriptTimeout : Option Nat := none
deriving DecidableEq, Repr, Inhabited

/-- Why a text is no number. -/
inductive NumberFault where
  | empty
  | badDigit
  | tooLarge
deriving DecidableEq, Repr

/-- The wording of a number's fault. -/
def NumberFault.message : NumberFault → String
  | .empty => "cannot parse integer from empty string"
  | .badDigit => "invalid digit found in string"
  | .tooLarge => "number too large to fit in target type"

/-- The number that decimal digits after others spell; the first fault counts. -/
def readDigits (value : Nat) : List Char → Except NumberFault Nat
  | [] => .ok value
  | digit :: rest =>
    if digit.isDigit then
      let value := value * 10 + (digit.toNat - '0'.toNat)
      if value < Nat.pow 2 64 then readDigits value rest else .error .tooLarge
    else .error .badDigit

/-- The number that a text spells. -/
def readNumber (text : String) : Except NumberFault Nat :=
  match text.toList with
  | [] => .error .empty
  | ['+'] => .error .badDigit
  | '+' :: digits => readDigits 0 digits
  | digits => readDigits 0 digits

/-- The least memory limit. -/
def minMemory : Nat := 1

/-- `playground::MAX_MEMORY_MIB` — the largest memory limit. -/
def maxMemory : Nat := 4096

namespace Options

/-- The number that an option's value spells. -/
def number (item : Item) (value : String) : Except UsageFault Nat :=
  match readNumber value with
  | .ok number => .ok number
  | .error fault => .error (.invalidValue item value (some fault.message))

/-- The options after the value of one of them. -/
def set (options : Options) (item : Item) (value : String) : Except UsageFault Options :=
  match item with
  | .file =>
    if value = "" then .error (.missingValue item) else .ok { options with file := some value }
  | .language =>
    match Language.parse value with
    | .ok language => .ok { options with language }
    | .error name =>
      .error (.invalidValue item value (some (Failure.unknownLanguage name).message))
  | .pythonMode =>
    match PythonMode.ofName? value with
    | some pythonMode => .ok { options with pythonMode }
    | none =>
      .error (if value = "" then .missingValue item else .invalidValue item value none)
  | .endpoint => .ok { options with endpoint := value }
  | .location => .ok { options with location := value }
  | .requestTimeout => do
    let seconds ← number item value
    .ok { options with requestTimeout := some seconds }
  | .timeout => do .ok { options with timeout := ← number item value }
  | .scriptTimeout => do
    let millis ← number item value
    .ok { options with scriptTimeout := some millis }
  | .maxMemory => do
    let megabytes ← number item value
    if minMemory ≤ megabytes ∧ megabytes ≤ CommandLine.maxMemory then
      .ok { options with maxMemory := megabytes }
    else
      .error (.invalidValue item value (some (toString megabytes ++ " is not in " ++
        toString minMemory ++ "..=" ++ toString CommandLine.maxMemory)))

/-- `Cli::config` — the settings of the playground that the options ask for. -/
def settings (options : Options) : Settings where
  pythonMode := options.pythonMode
  endpoint := options.endpoint
  requestTimeout := options.requestTimeout.map TimeSpan.ofSecs
  interpreter := {
    location := options.location
    timeout := TimeSpan.ofSecs options.timeout
    maxMemory := options.maxMemory * 1024 * 1024 }
  script := { timeout := options.scriptTimeout.map TimeSpan.ofMillis }

end Options

end Scratchpad.CommandLine
