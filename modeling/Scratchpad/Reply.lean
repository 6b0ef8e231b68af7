import Scratchpad.Failure
import Scratchpad.Json.Reader
import Scratchpad.Json.Writer

/-!
# Replies of the remote service

A request is an object with the code; a reply is an object with an output, an error, or both. The
table of an object is gone through entry by entry: a field that is absent or is no string counts as
absent, a field that comes twice is a fault, and other entries do not matter. An object with a fault
and a JSON text of any other shape are replies without fields.
-/
namespace Scratchpad

/-- `ExecuteResponse` — what a service answered. -/
structure Reply where
  /-- The output, if there is one. -/
  output : Option String := none
  /-- The error, if there is one. -/
  error : Option String := none
deriving DecidableEq, Repr, Inhabited

namespace Reply

/-- Why a table is no reply. -/
inductive Fault where
  /-- A field comes twice. -/
  | duplicate (name : String)
deriving DecidableEq, Repr

/-- The fields that were met in a table; one that was met may hold no string. -/
structure Met where
  output : Option (Option String) := none
  error : Option (Option String) := none
deriving DecidableEq, Repr

/-- A field that is met, unless it was met before. -/
def meet (name : String) (value : Json.Value) :
    Option (Option String) → Except Fault (Option (Option String))
  | none => .ok (some value.string?)
  | some _ => .error (.duplicate name)

/-- Go on to an entry of a table. -/
def Met.visit (met : Met) (entry : String × Json.Value) : Except Fault Met := do
  if entry.1 = "output" then return { met with output := ← meet entry.1 entry.2 met.output }
  else if entry.1 = "error" then return { met with error := ← meet entry.1 entry.2 met.error }
  else return met

/-- Go through the entries of a table. -/
def Met.visitAll (met : Met) : List (String × Json.Value) → Except Fault Met
  | [] => .ok met
  | entry :: rest => do (← met.visit entry).visitAll rest

/-- The reply that a table is. -/
def ofTable (entries : List (String × Json.Value)) : Except Fault Reply := do
  let met ← Met.visitAll {} entries
  return { output := met.output.join, error := met.error.join }

/-- The reply that a JSON value is. -/
def ofValue : Json.Value → Reply
  | .object members =>
    match ofTable (Json.table members) with
    | .ok reply => reply
    | .error _ => {}
  | _ => {}

/-- `ExecuteResponse::parse` — the reply of a body. -/
def parse (body : List UInt8) : Except Failure Reply :=
  match Json.parse body with
  | .ok value => .ok (ofValue value)
  | .error fault => .error (.malformedReply fault)

/-- The first of two texts that is present and not empty. -/
def firstNonEmpty : Option String → Option String → String
  | some first, second => if first ≠ "" then first else second.getD ""
  | none, second => second.getD ""

/-- `ExecuteResponse::display_text` — what the panel shows of a reply: its output, else its error,
else nothing. -/
def text (reply : Reply) : String := firstNonEmpty reply.output reply.error

/-- The text of a reply is its first field that is present and not empty. -/
theorem text_eq_find (reply : Reply) :
    reply.text = ((reply.output.toList ++ reply.error.toList).find? (· ≠ "")).getD "" := by
  obtain ⟨output, error⟩ := reply
  cases output with
  | none =>
    cases error with
    | none => rfl
    | some error => by_cases empty : error = "" <;> simp [text, firstNonEmpty, empty]
  | some output =>
    by_cases noOutput : output = ""
    · cases error with
      | none => simp [text, firstNonEmpty, noOutput]
      | some error => by_cases empty : error = "" <;> simp [text, firstNonEmpty, noOutput, empty]
    · cases error <;> simp [text, firstNonEmpty, noOutput]

/-- `ExecuteRequest` — the body of the request to run a code. -/
def requestBody (code : String) : String := Json.render (.object [("code", .text code)])

end Reply

end Scratchpad
