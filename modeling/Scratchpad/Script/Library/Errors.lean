import Scratchpad.Script.Library.Arguments

/-!
# Errors

Making errors and showing them.
-/
namespace Scratchpad.Script

open Scratchpad.Text (Units)

/-- The key of the cause of an error. -/
def Key.cause : Key := .ofString "cause"

/-- The key of the text that says where an error was made. -/
def Key.stack : Key := .ofString "stack"

/-- Put the members that a new error gets into it. -/
def fillError [Machine] (error : Ref) (message options : Value) : Eval Unit := do
  if !message.isUndefined then putQuiet error .message (.text (← toText message))
  match options with
  | .object ref => if ← has ref .cause then putQuiet error .cause (← getOf ref .cause)
  | _ => pure ()

/-- Make an error of a kind. -/
def constructError [Machine] (kind : ErrorKind) (invocation : Invocation) : Eval Value := do
  let isAggregate := kind = .aggregate
  let error ← makeFor invocation (.error kind) .error
  if isAggregate then
    fillError error invocation.second (invocation.argument 2)
    let errors ← valuesOf invocation.first
    putQuiet error (.ofString "errors") (← makeArray errors)
  else fillError error invocation.first invocation.second
  putQuiet error .stack (.text .empty)
  return .object error

/-- A property of an error as a string; a missing one is a given string. -/
def errorPart [Machine] (error : Ref) (key : Key) (missing : String) : Eval Units := do
  match ← getOf error key with
  | .undefined => return Units.ofString missing
  | value => toText value

/-- An error as a string: its name and its message. -/
def errorText [Machine] (this : Value) : Eval Value := do
  let error ← requireObject this
  let name ← errorPart error .name "Error"
  let message ← errorPart error .message ""
  if name.isEmpty then return .text message
  else if message.isEmpty then return .text name
  else return .text (name ++ Units.ofString ": " ++ message)

/-- Give an object the text that says where it was made. -/
def captureStack [Machine] (value : Value) : Eval Value := do
  putQuiet (← requireObject value) .stack (.text .empty)
  return .undefined

end Scratchpad.Script
