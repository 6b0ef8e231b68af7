/-!
# Transcripts and their handles

A transcript is the text of an output area. Several handles may name one transcript: a handle made
by cloning names the transcript of the handle it was made from, and a handle made anew names an
empty one. Writing through any handle is seen through every handle of the same transcript and
through no other.
-/
namespace Scratchpad

/-- `OutputBuffer` — the text of an output area. -/
abbrev Transcript := String

namespace Transcript

/-- What precedes a line of an error stream. -/
def errorMark : String := "Error: "

/-- `executor::output::stdout_sink` — a transcript with a line of the output stream at its end. -/
def addOutputLine (transcript : Transcript) (line : String) : Transcript :=
  transcript ++ line ++ "\n"

/-- `executor::output::stderr_sink` — a transcript with a line of the error stream at its end. -/
def addErrorLine (transcript : Transcript) (line : String) : Transcript :=
  transcript ++ errorMark ++ line ++ "\n"

/-- One write to a transcript. -/
inductive Write where
  /-- Clear the text. -/
  | reset
  /-- Add text at the end. -/
  | append (text : String)
  /-- Put text in the place of everything. -/
  | replace (text : String)
  /-- Add a line of the output stream. -/
  | output (line : String)
  /-- Add a line of the error stream. -/
  | error (line : String)
deriving DecidableEq, Repr

/-- A transcript after one write. -/
def write (transcript : Transcript) : Write → Transcript
  | .reset => ""
  | .append text => transcript ++ text
  | .replace text => text
  | .output line => transcript.addOutputLine line
  | .error line => transcript.addErrorLine line

/-- A transcript after writes in order. -/
def writeAll (transcript : Transcript) (writes : List Write) : Transcript :=
  writes.foldl write transcript

/-- Writes in two parts are written one part after the other. -/
theorem writeAll_append (transcript : Transcript) (first second : List Write) :
    transcript.writeAll (first ++ second) = (transcript.writeAll first).writeAll second :=
  List.foldl_append

/-- Nothing that stood in a transcript outlives a reset. -/
@[simp]
theorem writeAll_reset (transcript : Transcript) (writes : List Write) :
    transcript.writeAll (.reset :: writes) = writeAll "" writes := rfl

/-- Nothing that was written before outlives a replacement. -/
@[simp]
theorem writeAll_replace (transcript : Transcript) (writes : List Write) (text : String) :
    transcript.writeAll (writes ++ [.replace text]) = text := by
  rw [writeAll_append]
  rfl

/-- Lines of the output stream are added one after the other, each with its end. -/
theorem writeAll_output (transcript : Transcript) (lines : List String) :
    transcript.writeAll (lines.map .output) = transcript ++ String.join (lines.map (· ++ "\n")) := by
  induction lines generalizing transcript with
  | nil => simp [writeAll]
  | cons line lines ih =>
    change writeAll (transcript.addOutputLine line) (lines.map .output) = _
    rw [ih, List.map_cons, String.join_cons, addOutputLine]
    simp only [String.append_assoc]

/-- Lines of the error stream are added one after the other, each with its mark and its end. -/
theorem writeAll_error (transcript : Transcript) (lines : List String) :
    transcript.writeAll (lines.map .error) =
      transcript ++ String.join (lines.map fun line => errorMark ++ line ++ "\n") := by
  induction lines generalizing transcript with
  | nil => simp [writeAll]
  | cons line lines ih =>
    change writeAll (transcript.addErrorLine line) (lines.map .error) = _
    rw [ih, List.map_cons, String.join_cons, addErrorLine]
    simp only [String.append_assoc]

end Transcript

/-- Transcripts, and for each handle the transcript that it names. -/
structure Handles where
  /-- The transcripts. -/
  transcripts : Array Transcript
  /-- The transcript of each handle. -/
  owners : Array Nat
deriving Inhabited

namespace Handles

/-- One handle on an empty transcript. -/
def initial : Handles := ⟨#[""], #[0]⟩

/-- An operation on handles. -/
inductive Step where
  /-- Make a handle on a new transcript. -/
  | make
  /-- Make a handle on the transcript of another handle. -/
  | clone (handle : Nat)
  /-- Write through a handle. -/
  | write (handle : Nat) (write : Transcript.Write)
deriving Repr

/-- The transcript that a handle names. -/
def owner? (handles : Handles) (handle : Nat) : Option Nat := handles.owners[handle]?

/-- `OutputBuffer::snapshot` — the text seen through a handle. -/
def text? (handles : Handles) (handle : Nat) : Option Transcript :=
  match handles.owner? handle with
  | some owner => handles.transcripts[owner]?
  | none => none

/-- `OutputBuffer::len` — the number of bytes of the text seen through a handle. -/
def length? (handles : Handles) (handle : Nat) : Option Nat :=
  (handles.text? handle).map String.utf8ByteSize

/-- `OutputBuffer::is_empty` — whether the text seen through a handle is empty. -/
def isEmpty? (handles : Handles) (handle : Nat) : Option Bool :=
  (handles.text? handle).map String.isEmpty

/-- The handles after one operation; one on an unknown handle changes nothing. -/
def step (handles : Handles) : Step → Handles
  | .make =>
    { transcripts := handles.transcripts.push ""
      owners := handles.owners.push handles.transcripts.size }
  | .clone handle =>
    match handles.owner? handle with
    | some owner => { handles with owners := handles.owners.push owner }
    | none => handles
  | .write handle write =>
    match handles.owner? handle with
    | some owner =>
      { handles with transcripts := handles.transcripts.modify owner (·.write write) }
    | none => handles

/-- The texts seen through all handles, in the order of their making. -/
def texts (handles : Handles) : List Transcript :=
  handles.owners.toList.map fun owner => handles.transcripts[owner]?.getD ""

end Handles

end Scratchpad
