import Scratchpad.CommandLine.Options

/-!
# Arguments of the command

Arguments are read from left to right. A value is only looked at when the argument after it has
been recognized, so that an argument nobody knows is reported before a bad value in front of it;
help and version are answered as soon as they are reached.
-/
namespace Scratchpad.CommandLine

/-- Why reading stops before the end. -/
inductive Stop where
  | fault (fault : UsageFault)
  /-- Help was asked for, in long form or not. -/
  | help (long : Bool)
  | version
deriving DecidableEq, Repr

/-- The arguments read so far. -/
structure Reading where
  options : Options := {}
  /-- What has its value. -/
  given : List Item := []
  /-- What was named last, with its value once that was read. -/
  pending : Option (Item × Option String) := none
  /-- Whether everything left is a file. -/
  onlyFiles : Bool := false
  /-- Whether a file was named. -/
  hasFile : Bool := false
deriving Inhabited

namespace Reading

/-- Take a value: the item must be new, and the value must be one of its own. -/
def take (reading : Reading) (item : Item) (value : Option String) : Except Stop Reading :=
  match value with
  | none => .error (.fault (.missingValue item))
  | some value =>
    if reading.given.contains item then .error (.fault (.repeated item))
    else
      match reading.options.set item value with
      | .ok options => .ok { reading with options, given := item :: reading.given }
      | .error fault => .error (.fault fault)

/-- Take the value that was read last. -/
def settle (reading : Reading) : Except Stop Reading :=
  match reading.pending with
  | some (item, value) => { reading with pending := none }.take item value
  | none => .ok reading

/-- Name an option, with the value that is attached to it if there is one. -/
def nameOption (reading : Reading) (item : Item) (value : Option String) : Except Stop Reading := do
  let reading ← reading.settle
  match value with
  | some value => reading.take item (some value)
  | none => .ok { reading with pending := some (item, none) }

/-- Stop for help or version, once the value before it is settled. -/
def answer (reading : Reading) (stop : Stop) : Except Stop Reading := do
  let _ ← reading.settle
  .error stop

/-- Read a file name. -/
def nameFile (reading : Reading) (argument : String) : Except Stop Reading :=
  if reading.hasFile then .error (.fault (.unexpectedArgument argument))
  else do
    let reading ← reading.settle
    .ok { reading with pending := some (.file, some argument), hasFile := true }

/-- The part before the first equals sign, and the part after it if there is one. -/
def splitValue (chars : List Char) : String × Option String :=
  let rest := chars.dropWhile (· ≠ '=')
  (String.ofList (chars.takeWhile (· ≠ '=')),
    if rest.isEmpty then none else some (String.ofList (rest.drop 1)))

/-- Read a long option, given without its dashes. -/
def long (reading : Reading) (chars : List Char) : Except Stop Reading :=
  let (name, value) := splitValue chars
  let flag (stop : Stop) : Except Stop Reading :=
    match value with
    | some value => .error (.fault (.unexpectedValue value ("--" ++ name)))
    | none => reading.answer stop
  if name = "help" then flag (.help true)
  else if name = "version" then flag .version
  else
    match Item.options.find? (·.longName = name) with
    | some item => reading.nameOption item value
    | none => .error (.fault (.unexpectedArgument ("--" ++ name)))

/-- Read letters, given without their dash. -/
def letters (reading : Reading) : List Char → Except Stop Reading
  | [] => .ok reading
  | 'h' :: _ => reading.answer (.help false)
  | 'V' :: _ => reading.answer .version
  | letter :: rest =>
    match Item.ofLetter? letter with
    | some item =>
      let value := match rest with
        | '=' :: value => some (String.ofList value)
        | [] => none
        | value => some (String.ofList value)
      reading.nameOption item value
    | none => .error (.fault (.unexpectedArgument ("-" ++ letter.toString)))

/-- Read one argument. -/
def step (reading : Reading) (argument : String) : Except Stop Reading :=
  if reading.onlyFiles then reading.nameFile argument
  else
    match argument.toList with
    | ['-', '-'] => .ok { reading with onlyFiles := true }
    | '-' :: '-' :: name => reading.long name
    | '-' :: letter :: rest => reading.letters (letter :: rest)
    | _ =>
      match reading.pending with
      | some (item, none) => .ok { reading with pending := some (item, some argument) }
      | _ => reading.nameFile argument

end Reading

/-- Read every argument. -/
def read (arguments : List String) : Except Stop Options := do
  let reading ← arguments.foldlM Reading.step {}
  let reading ← reading.settle
  .ok reading.options

/-! ## Help -/

/-- The line that names the command and its version. -/
def versionText : String := "playground 0.1.0\n"

/-- One entry of the help. -/
structure Entry where
  /-- The names and the value. -/
  head : String
  about : String
  initial : Option String := none
  /-- The values that are possible, each with what it means. -/
  choices : List (String × String) := []

/-- The entries of the options. -/
def entries : List Entry :=
  let defaults : Options := {}
  [{ head := "-l, --language <LANGUAGE>"
     about := "Language of the snippet (javascript or python)"
     initial := some defaults.language.name },
   { head := "    --python-mode <PYTHON_MODE>"
     about := "Where Python runs"
     initial := some defaults.pythonMode.name
     choices := [("embedded", "Run Python in the embedded wasm interpreter"),
       ("remote", "Send Python to the remote execution service")] },
   { head := "    --endpoint <ENDPOINT>"
     about := "Remote execution service URL"
     initial := some defaults.endpoint },
   { head := "    --request-timeout <SECS>"
     about := "Remote request timeout in seconds. Waits indefinitely when omitted" },
   { head := "    --index-url <INDEX_URL>"
     about := "Path or URL of the embedded Python interpreter"
     initial := some defaults.location },
   { head := "    --timeout <SECS>"
     about := "Embedded Python run timeout in seconds"
     initial := some (toString defaults.timeout) },
   { head := "    --max-memory <MIB>"
     about := "Embedded Python memory limit in MiB (wasm32 tops out at 4096)"
     initial := some (toString defaults.maxMemory) },
   { head := "    --js-timeout <MILLIS>"
     about := "JavaScript run timeout in milliseconds. Unlimited when omitted" }]

/-- The entries that every command has; each form of the help names the other. -/
def commonEntries (long : Bool) : List Entry :=
  [{ head := "-h, --help"
     about := if long then "Print help (see a summary with '-h')"
       else "Print help (see more with '--help')" },
   { head := "-V, --version", about := "Print version" }]

/-- A text filled with blanks up to a width. -/
def fill (width : Nat) (text : String) : String :=
  text ++ String.ofList (List.replicate (width - text.length) ' ')

/-- The width of the heads in the short form. -/
def headWidth : Nat := 31

/-- An entry in the short form, on one line. -/
def Entry.short (entry : Entry) : String :=
  let initial := match entry.initial with
    | some value => " [default: " ++ value ++ "]"
    | none => ""
  let choices := if entry.choices.isEmpty then ""
    else " [possible values: " ++ String.intercalate ", " (entry.choices.map (·.1)) ++ "]"
  "  " ++ fill headWidth entry.head ++ "  " ++ entry.about ++ initial ++ choices ++ "\n"

/-- The blanks in front of what the long form says of an entry. -/
def margin : String := "          "

/-- The choices of an entry in the long form. -/
def Entry.choiceLines (entry : Entry) : String :=
  let width := entry.choices.foldl (fun width choice => max width choice.1.length) 0
  String.join (entry.choices.map fun choice =>
    "\n" ++ margin ++ "- " ++ fill (width + 1) (choice.1 ++ ":") ++ " " ++ choice.2)

/-- An entry in the long form. -/
def Entry.long (entry : Entry) : String :=
  let initial := match entry.initial with
    | some value => "\n" ++ margin ++ "\n" ++ margin ++ "[default: " ++ value ++ "]"
    | none => ""
  let choices := if entry.choices.isEmpty then ""
    else "\n\n" ++ margin ++ "Possible values:" ++ entry.choiceLines
  "  " ++ entry.head ++ "\n" ++ margin ++ entry.about ++ initial ++ choices ++ "\n"

/-- The help. -/
def helpText (long : Bool) : String :=
  let file := "File containing the snippet. Reads stdin when omitted"
  let all := entries ++ commonEntries long
  "Run a JavaScript or Python snippet\n\nUsage: playground [OPTIONS] [FILE]\n\nArguments:\n" ++
    (if long then "  [FILE]\n" ++ margin ++ file ++ "\n" else "  [FILE]  " ++ file ++ "\n") ++
    "\nOptions:\n" ++
    (if long then String.intercalate "\n" (all.map Entry.long)
      else String.join (all.map Entry.short))

end Scratchpad.CommandLine
