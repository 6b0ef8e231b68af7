import Scratchpad.CommandLine.Session

/-!
# The command

The thin layer between the command and the system: it reads the file or the input that the
arguments ask for, and writes what the session leaves behind.
-/
namespace Scratchpad.Main

open Scratchpad.CommandLine

/-- The bytes of a file, if it can be read. -/
def fileBytes (name : String) : IO (Option (List UInt8)) := do
  try
    let bytes ← IO.FS.readBinFile name
    pure (some bytes.data.toList)
  catch _ => pure none

/-- The bytes of the input. -/
def inputBytes : IO (List UInt8) := do
  let bytes ← (← IO.getStdin).readBinToEnd
  pure bytes.data.toList

/-- What the place of an interpreter gives. -/
def fetched (location : String) : IO Guest.Fetched := do
  if Guest.isRemote location then pure (.unreachable "no network")
  else
    match ← fileBytes location with
    | some bytes => pure (.image (.ofBytes bytes))
    | none => pure (Guest.emptyFileSystem location)

/-- What the command finds around it, as far as its options ask for it. -/
def surroundings (options : Options) : IO Surroundings := do
  let (content, input) ← match options.file with
    | some name => do pure (← fileBytes name, [])
    | none => do pure (none, ← inputBytes)
  let found ← fetched options.location
  pure { file := fun _ => content, input, fetch := fun _ => found, deliveries := [] }

end Scratchpad.Main

/-- Run the command. -/
def main (arguments : List String) : IO UInt32 := do
  let around ← match Scratchpad.CommandLine.read arguments with
    | .ok options => Scratchpad.Main.surroundings options
    | .error _ => pure Scratchpad.CommandLine.Surroundings.nothing
  let outcome := Scratchpad.CommandLine.run around arguments
  IO.print outcome.output
  if outcome.complaint ≠ "" then IO.eprintln outcome.complaint
  pure outcome.status.toUInt32
