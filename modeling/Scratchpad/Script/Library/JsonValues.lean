import Scratchpad.Script.Library.JsonText
import Scratchpad.Script.Library.Objects
import Scratchpad.Script.Library.Numbers

/-!
# Values as JSON

Making values of what was read from JSON, and writing values as JSON. Functions of the script may
have a say for every value.
-/
namespace Scratchpad.Script

open Scratchpad.Text (Units)

/-! ## Reading -/

mutual

/-- Make a value of what was read. -/
def makeTree [Machine] : JsonText.Tree → Eval Value
  | .null => return .null
  | .boolean value => return .boolean value
  | .number value => return .number value
  | .text value => makeText value
  | .array items => do makeArray (← makeItems items #[])
  | .object members => do
    let made ← makePlain
    makeMembers made members
    return .object made

/-- Make the values of items, behind those made before. -/
def makeItems [Machine] : List JsonText.Tree → Array Value → Eval (Array Value)
  | [], found => return found
  | item :: rest, found => do
    let value ← makeTree item
    makeItems rest (found.push value)

/-- Put members into an object. -/
def makeMembers [Machine] (made : Ref) : List (Units × JsonText.Tree) → Eval Unit
  | [] => return ()
  | (name, member) :: rest => do
    let value ← makeTree member
    createOrThrow made (.text name) value
    makeMembers made rest

end

/-- Put what a function gives for a member in its place, or remove the member. -/
def replaceMember [Machine] (ref : Ref) (key : Key) (value : Value) : Eval Unit := do
  match value with
  | .undefined => let _ ← delete ref key
  | _ => let _ ← create ref key value

/-- What a function gives for a member after it was asked for the members inside, at most `fuel`
levels down. -/
def revive [Machine] (function : Value) : Nat → Ref → Key → Eval Value
  | 0, _, _ => raiseRange .stackOverflow
  | fuel + 1, holder, key => do
    let value ← getOf holder key
    match value with
    | .object ref =>
      if ← Eval.view fun memory => (memory.object ref).isArray then
        let length ← lengthOfObject ref
        forIndices 0 length fun index => do
          let key := indexKey index
          replaceMember ref key (← revive function fuel ref key)
      else
        for key in ← visibleKeys ref do
          replaceMember ref key (← revive function fuel ref key)
    | _ => pure ()
    Machine.call function (.object holder) #[key.value, value]

/-- Read a value from JSON. -/
def parseJson [Machine] (invocation : Invocation) : Eval Value := do
  let text ← toText invocation.first
  match JsonText.parse text with
  | .error message => raise (.syntactic message)
  | .ok tree =>
    let value ← makeTree tree
    if ← isCallable invocation.second then
      let holder ← makePlain
      createOrThrow holder (.text .empty) value
      revive invocation.second (Machine.depth + 1) holder (.text .empty)
    else return value

/-! ## Writing -/

/-- How values are written. -/
structure JsonStyle where
  /-- The function that is asked for every value. -/
  replacer : Option Value := none
  /-- The names of the members that are written, all if absent. -/
  names : Option (Array Key) := none
  /-- What one more level is set in by. -/
  indent : Units := .empty

/-- The value that is written in the place of a member. -/
def writtenValue [Machine] (style : JsonStyle) (holder : Ref) (key : Key) (value : Value) :
    Eval Value := do
  let value ← match value with
    | .object _ | .bigint _ => do
      let method ← getNamed value "toJSON"
      if ← isCallable method then Machine.call method value #[key.value] else pure value
    | _ => pure value
  let value ← match style.replacer with
    | some function => Machine.call function (.object holder) #[key.value, value]
    | none => pure value
  match value with
  | .object ref =>
    match (← Eval.view (·.object ref)).nature with
    | .wrapper (.number _) => return .number (← toNumber value)
    | .wrapper (.text _) => return .text (← toText value)
    | .wrapper (.boolean inner) => return .boolean inner
    | .wrapper (.bigint inner) => return .bigint inner
    | _ => return value
  | _ => return value

/-- Items on lines of their own, or one after the other without an indent. -/
def writeLines (style : JsonStyle) (opening closing : UInt16) (indent : Units)
    (items : List (Array UInt16)) : Array UInt16 :=
  match items with
  | [] => #[opening, closing]
  | first :: rest =>
    if style.indent.isEmpty then
      (rest.foldl (fun found item => found.push 44 ++ item) (#[opening] ++ first)).push closing
    else
      let line := #[10] ++ indent.codes ++ style.indent.codes
      let body := rest.foldl (fun found item => found.push 44 ++ line ++ item)
        (#[opening] ++ line ++ first)
      (body ++ #[10] ++ indent.codes).push closing

/-- Write a value that was asked for already, at most `fuel` levels deep; none if it is left out. -/
def writeValue [Machine] (style : JsonStyle) :
    Nat → List Ref → Units → Value → Eval (Option (Array UInt16))
  | 0, _, _, _ => raiseRange .stackOverflow
  | fuel + 1, around, indent, value => do
    match value with
    | .null => return some (Units.ofString "null").codes
    | .boolean value => return some (Units.ofString (if value then "true" else "false")).codes
    | .number value =>
      return some (Units.ofString
        (if isFiniteNumber value then Decimal.text value else "null")).codes
    | .text text => return some (JsonText.quote text)
    | .bigint _ => raiseType .bigintInJson
    | .undefined | .symbol _ => return none
    | .object ref =>
      let object ← Eval.view (·.object ref)
      if object.isCallable then return none
      else if around.contains ref then raiseType .circularReference
      else
        let inner := indent ++ style.indent
        if object.isArray then
          let length ← lengthOfObject ref
          let items ← repeatUntil (fun (state : Nat × List (Array UInt16)) => do
            let (index, found) := state
            if index < length then
              let key := indexKey index
              let value ← writtenValue style ref key (← getIndex ref index)
              let text ← writeValue style fuel (ref :: around) inner value
              return .inr (index + 1, text.getD (Units.ofString "null").codes :: found)
            else return .inl found) (0, [])
          return some (writeLines style 91 93 indent items.reverse)
        else
          let keys ← match style.names with
            | some names => pure names
            | none => visibleKeys ref
          let items : List (Array UInt16) ← repeatUntil (fun (state : List Key × List (Array UInt16)) => do
            match state with
            | ([], found) => return .inl found
            | (key :: rest, found) =>
              let value ← writtenValue style ref key (← getOf ref key)
              match ← writeValue style fuel (ref :: around) inner value with
              | none => return .inr (rest, found)
              | some text =>
                let name := match key with
                  | .text name => JsonText.quote name
                  | _ => #[]
                let colon := if style.indent.isEmpty then #[58] else #[58, 32]
                return .inr (rest, (name ++ colon ++ text) :: found)) (keys.toList, [])
          return some (writeLines style 123 125 indent items.reverse)

/-- The name of a member that an item of a list names. -/
def listedName? [Machine] (value : Value) : Eval (Option Key) := do
  match value with
  | .text text => return some (.text text)
  | .number _ => return some (.text (← toText value))
  | .object ref =>
    match (← Eval.view (·.object ref)).nature with
    | .wrapper (.text _) | .wrapper (.number _) => return some (.text (← toText value))
    | _ => return none
  | _ => return none

/-- The names of the members that a list names, each of them once. -/
def listedNames [Machine] (ref : Ref) : Eval (Array Key) := do
  (← elementsOf ref).foldlM (fun names value => do
    match ← listedName? value with
    | some key => return if names.contains key then names else names.push key
    | none => return names) #[]

/-- What one more level is set in by, as an argument says. -/
def toIndent [Machine] (value : Value) : Eval Units := do
  match ← unwrapped value with
  | .number _ =>
    let count ← toIntegral value
    let count := if count < 0.0 then 0 else if count > 10.0 then 10 else count.toUInt64.toNat
    return Units.replicate count 32
  | .text _ => return (← toText value).slice 0 10
  | _ => return .empty

/-- How the second and third argument ask for values to be written. -/
def toStyle [Machine] (replacer indent : Value) : Eval JsonStyle := do
  let indent ← toIndent indent
  match replacer with
  | .object ref =>
    if ← isCallable replacer then return { replacer := some replacer, indent }
    else if ← Eval.view fun memory => (memory.object ref).isArray then
      return { names := some (← listedNames ref), indent }
    else return { indent }
  | _ => return { indent }

/-- Write a value as JSON. -/
def stringifyJson [Machine] (invocation : Invocation) : Eval Value := do
  let style ← toStyle invocation.second (invocation.argument 2)
  let holder ← makePlain
  createOrThrow holder (.text .empty) invocation.first
  let value ← writtenValue style holder (.text .empty) invocation.first
  match ← writeValue style (Machine.depth + 1) [] .empty value with
  | some codes => makeText ⟨codes⟩
  | none => return .undefined

/-- Carry out a function that reads or writes JSON. -/
def runJsonFunction [Machine] (function : JsonFunction) (invocation : Invocation) :
    Eval Value := do
  match function with
  | .parse => parseJson invocation
  | .stringify => stringifyJson invocation

end Scratchpad.Script
