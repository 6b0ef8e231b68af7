import Scratchpad.Script.Library.Symbols
import Scratchpad.Text.Case

/-!
# Strings

Making strings and the methods of strings. Positions count code units. What searches for or replaces
a pattern asks the pattern first whether it does so itself.
-/
namespace Scratchpad.Script

open Scratchpad.Text (Units)

/-! ## Making strings -/

/-- Make a string by its constructor. -/
def constructText [Machine] (invocation : Invocation) : Eval Value := do
  let text ← if invocation.arguments.isEmpty then pure .empty
    else
      match invocation.first, invocation.newTarget with
      | .symbol symbol, none => symbolText symbol
      | value, _ => toText value
  wrapIfNew invocation .text (.text text)

/-- The code point that a value is. -/
def toCodePoint [Machine] (value : Value) : Eval Nat := do
  let code ← toNumber value
  if 0.0 ≤ code && code ≤ 1114111.0 && code.floor == code then return code.toUInt64.toNat
  else raiseRange .codePoint

/-- The strings of a template with values between them. -/
def interleaved [Machine] (invocation : Invocation) : Eval Value := do
  let template ← toObject invocation.first
  let raw ← toObject (← getNamed (.object template) "raw")
  let length ← lengthOfObject raw
  let (_, found) ← repeatUntil (fun (state : Nat × Array UInt16) => do
    let (index, found) := state
    if index < length then
      let text ← toText (← getIndex raw index)
      let found := found ++ text.codes
      if index + 1 < length && index + 1 < invocation.arguments.size then
        let value ← toText (invocation.argument (index + 1))
        return .inr (index + 1, found ++ value.codes)
      else return .inr (index + 1, found)
    else return .inl (index, found)) (0, #[])
  makeText ⟨found⟩

/-- Carry out a function of the constructor of strings. -/
def runTextFunction [Machine] (function : TextFunction) (invocation : Invocation) :
    Eval Value := do
  match function with
  | .fromCharCode =>
    let codes ← invocation.arguments.mapM fun value => do
      return (← toUInt32 value).toUInt16
    makeText ⟨codes⟩
  | .fromCodePoint =>
    let codes ← invocation.arguments.mapM toCodePoint
    makeText (Units.ofCodes codes.toList)
  | .raw => interleaved invocation

/-! ## Receivers and arguments -/

/-- The string that a method is called on. -/
def thisText [Machine] (value : Value) : Eval Units := do
  if value.isMissing then raiseType .notCoercible else toText value

/-- The string that an object holds or a value is. -/
def heldText [Machine] (value : Value) : Eval Units := do
  match ← unwrapped value with
  | .text text => return text
  | _ => raiseType (.badReceiver "string")

/-- Check that a value is no pattern. -/
def refusePattern [Machine] (value : Value) : Eval Unit := do
  match value with
  | .object ref =>
    if (← getOf ref WellKnown.match.key).truth then raiseType .regexArgument
  | _ => return ()

/-- A position between zero and a size. -/
def toPosition [Machine] (value : Value) (size missing : Nat) : Eval Nat := do
  if value.isUndefined then return missing
  else
    let position ← toIntegral value
    return if position ≤ 0.0 then 0
      else if position ≥ Float.ofNat size then size else position.toUInt64.toNat

/-- The position that a value names in a string, if there is a unit. -/
def unitPosition? [Machine] (value : Value) (size : Nat) (fromEnd : Bool) :
    Eval (Option Nat) := do
  let position ← toIntegral value
  let position := if fromEnd && position < 0.0 then position + Float.ofNat size else position
  return if position < 0.0 || position ≥ Float.ofNat size then none
    else some position.toUInt64.toNat

/-! ## Searching and splitting -/

/-- Whether a string holds another one at, before or behind a position. -/
def holdsText [Machine] (method : TextMethod) (text : Units) (invocation : Invocation) :
    Eval Bool := do
  refusePattern invocation.first
  let wanted ← toText invocation.first
  match method with
  | .endsWith =>
    let stop ← toPosition invocation.second text.size text.size
    return wanted.size ≤ stop && text.occursAt wanted (stop - wanted.size)
  | .startsWith => return text.occursAt wanted (← toPosition invocation.second text.size 0)
  | _ => return (text.find? wanted (← toPosition invocation.second text.size 0)).isSome

/-- The position as a value, minus one if there is none. -/
def positionValue : Option Nat → Value
  | some position => .ofNat position
  | none => .number (-1.0)

/-- The last position of a string in another one. -/
def findLast [Machine] (text : Units) (invocation : Invocation) : Eval Value := do
  let wanted ← toText invocation.first
  let position ← toNumber invocation.second
  if wanted.size > text.size then return positionValue none
  else
    let most := text.size - wanted.size
    let start := if position.isNaN then most else min most (clampIndex (max0 (integral position)) most)
    return positionValue (text.findLast? wanted start)
where
  /-- A number, or zero if it is negative. -/
  max0 (value : Float) : Float := if value < 0.0 then 0.0 else value

/-- The parts of a string between separators from a position on, at most `fuel` of them, behind
those found before. -/
def splitFrom (text separator : Units) : Nat → Nat → Nat → List Units → List Units
  | 0, _, _, found => found.reverse
  | fuel + 1, start, search, found =>
    match text.find? separator search with
    | some position =>
      if separator.isEmpty then
        if position + 1 ≥ text.size then ((text.slice start text.size) :: found).reverse
        else splitFrom text separator fuel (position + 1) (position + 1)
          (text.slice start (position + 1) :: found)
      else
        splitFrom text separator fuel (position + separator.size) (position + separator.size)
          (text.slice start position :: found)
    | none => (text.slice start text.size :: found).reverse

/-- The parts of a string between separators. -/
def splitText (text separator : Units) : List Units :=
  if separator.isEmpty && text.isEmpty then []
  else splitFrom text separator (text.size + 1) 0 0 []

/-- Let a pattern carry out a method, if it can. -/
def byPattern [Machine] (pattern : Value) (symbol : WellKnown) (arguments : Array Value) :
    Eval (Option Value) := do
  if pattern.isObject then
    match ← method? pattern symbol.key with
    | some method => some <$> Machine.call method pattern arguments
    | none => return none
  else return none

/-- Split a string by a separator, up to a number of parts. -/
def splitByText [Machine] (this separator limit : Value) : Eval Value := do
  let text ← toText this
  let limit ← if limit.isUndefined then pure maxLength
    else do pure (← toUInt32 limit).toNat
  let divider ← if separator.isUndefined then pure none else some <$> toText separator
  if limit = 0 then makeArray #[]
  else
    let parts := match divider with
      | some separator => splitText text separator
      | none => [text]
    makeList ((parts.take limit).map Value.text)

/-! ## Replacing -/

/-- What was found of a pattern. -/
structure Found where
  text : Units
  position : Nat
  matched : Units
  captures : Array Value := #[]
  named : Value := .undefined

/-- The index of a capture that digits at a position name, and the number of digits. -/
def captureAt? (template : Units) (position count : Nat) : Option (Nat × Nat) :=
  match Units.digit? (template.unitAt position) with
  | none => none
  | some first =>
    let both := if position + 1 < template.size then
        (Units.digit? (template.unitAt (position + 1))).map (first * 10 + ·)
      else none
    match both with
    | some index =>
      if 1 ≤ index && index ≤ count then some (index, 2)
      else if 1 ≤ first && first ≤ count then some (first, 1) else none
    | none => if 1 ≤ first && first ≤ count then some (first, 1) else none

/-- What a template stands for from a position on, in at most `fuel` steps. -/
def expandFrom [Machine] (template : Units) (found : Found) :
    Nat → Nat → Array UInt16 → Eval (Array UInt16)
  | 0, _, codes => return codes
  | fuel + 1, position, codes => do
    if position ≥ template.size then return codes
    else
      let unit := template.unitAt position
      let next := template.unitAt (position + 1)
      let plain := expandFrom template found fuel (position + 1) (codes.push unit)
      if unit ≠ 36 || position + 1 ≥ template.size then plain
      else if next = 36 then expandFrom template found fuel (position + 2) (codes.push 36)
      else if next = 38 then
        expandFrom template found fuel (position + 2) (codes ++ found.matched.codes)
      else if next = 96 then
        expandFrom template found fuel (position + 2)
          (codes ++ (found.text.slice 0 found.position).codes)
      else if next = 39 then
        expandFrom template found fuel (position + 2)
          (codes ++
            (found.text.slice (found.position + found.matched.size) found.text.size).codes)
      else if next = 60 && !found.named.isUndefined then
        match template.find? (Units.ofString ">") (position + 2) with
        | none => plain
        | some stop =>
          let value ← get found.named (.text (template.slice (position + 2) stop))
          let text ← if value.isUndefined then pure .empty else toText value
          expandFrom template found fuel (stop + 1) (codes ++ text.codes)
      else
        match captureAt? template (position + 1) found.captures.size with
        | none => plain
        | some (index, digits) =>
          let value := found.captures[index - 1]?.getD .undefined
          let text ← if value.isUndefined then pure .empty else toText value
          expandFrom template found fuel (position + 1 + digits) (codes ++ text.codes)

/-- What takes the place of what was found: what a function gives, or what a template stands for. -/
def replacementFor [Machine] (replacement : Value) (found : Found) : Eval Units := do
  if ← isCallable replacement then
    let arguments := #[Value.text found.matched] ++ found.captures ++
      #[.ofNat found.position, .text found.text]
    let arguments := if found.named.isUndefined then arguments else arguments.push found.named
    toText (← Machine.call replacement .undefined arguments)
  else
    let template ← toText replacement
    return ⟨← expandFrom template found (template.size + 1) 0 #[]⟩

/-- The positions of a string in another one from a position on, at most `fuel` of them. -/
def positionsFrom (text wanted : Units) : Nat → Nat → List Nat
  | 0, _ => []
  | fuel + 1, start =>
    match text.find? wanted start with
    | some position => position :: positionsFrom text wanted fuel (position + max 1 wanted.size)
    | none => []

/-- Replace a string at some positions. -/
def replaceAt [Machine] (text wanted : Units) (replacement : Value) :
    List Nat → Nat → Array UInt16 → Eval Units
  | [], start, codes => return ⟨codes ++ (text.slice start text.size).codes⟩
  | position :: rest, start, codes => do
    let next ← replacementFor replacement { text, position, matched := wanted }
    replaceAt text wanted replacement rest (position + wanted.size)
      (codes ++ (text.slice start position).codes ++ next.codes)

/-- Replace a string by another one, once or everywhere. -/
def replaceText [Machine] (this pattern replacement : Value) (everywhere : Bool) :
    Eval Value := do
  let text ← toText this
  let wanted ← toText pattern
  let replacement ← if ← isCallable replacement then pure replacement
    else Value.text <$> toText replacement
  let positions := if everywhere then positionsFrom text wanted (text.size + 1) 0
    else (text.find? wanted 0).toList
  makeText (← replaceAt text wanted replacement positions 0 #[])

/-! ## Shaping -/

/-- A string repeated. -/
def repeatText [Machine] (text : Units) (count : Value) : Eval Value := do
  let count ← toIntegral count
  if count < 0.0 || count > 2147483647.0 then raiseRange .repeatCount
  else
    let count := count.toUInt64.toNat
    if count * text.size > maxUnits then raiseRange .textLength
    else
      charge (count * text.size)
      return .text (if text.size = 1 then Units.replicate count (text.unitAt 0)
        else if text.isEmpty then .empty else text.repeated count)

/-- A string filled up to a length at its front or its end. -/
def padText [Machine] (text : Units) (invocation : Invocation) (atEnd : Bool) : Eval Value := do
  let length ← toLength invocation.first
  if length ≤ text.size then return .text text
  else
    let filler ← if invocation.second.isUndefined then pure (Units.ofString " ")
      else toText invocation.second
    if filler.isEmpty then return .text text
    else if length > maxUnits then raiseRange .textLength
    else
      charge length
      let missing := length - text.size
      let padding := (filler.repeated (missing / filler.size + 1)).slice 0 missing
      return .text (if atEnd then text ++ padding else padding ++ text)

/-- The name of the tag of a method, and of its attribute if it has one. -/
def TagMethod.tag : TagMethod → String × String
  | .anchor => ("a", "name")
  | .big => ("big", "")
  | .blink => ("blink", "")
  | .bold => ("b", "")
  | .fixed => ("tt", "")
  | .fontcolor => ("font", "color")
  | .fontsize => ("font", "size")
  | .italics => ("i", "")
  | .link => ("a", "href")
  | .small => ("small", "")
  | .strike => ("strike", "")
  | .sub => ("sub", "")
  | .sup => ("sup", "")

/-- A string inside a tag. -/
def tagText [Machine] (method : TagMethod) (text : Units) (value : Value) : Eval Value := do
  let (tag, property) := method.tag
  let detail ← if property.isEmpty then pure .empty
    else do
      let value ← toText value
      let quoted : Units := ⟨value.codes.flatMap fun unit =>
        if unit = 34 then (Units.ofString "&quot;").codes else #[unit]⟩
      pure (Units.ofString (" " ++ property ++ "=\"") ++ quoted ++ Units.ofString "\"")
  makeText (Units.ofString ("<" ++ tag) ++ detail ++ Units.ofString ">" ++ text ++
    Units.ofString ("</" ++ tag ++ ">"))

/-- The names of the forms of a text in which equal characters are equal units. -/
def normalForms : List String := ["NFC", "NFD", "NFKC", "NFKD"]

/-- A part of a string between two positions given by arguments. -/
def textBetween [Machine] (method : TextMethod) (text : Units) (invocation : Invocation) :
    Eval Value := do
  match method with
  | .slice =>
    let start ← toIndex invocation.first text.size 0
    let stop ← toIndex invocation.second text.size text.size
    makeText (text.slice start stop)
  | .substr =>
    let start ← toIndex invocation.first text.size 0
    let count ← toPosition invocation.second (text.size - start) (text.size - start)
    makeText (text.slice start (start + count))
  | _ =>
    let first ← toPosition invocation.first text.size 0
    let second ← toPosition invocation.second text.size text.size
    makeText (text.slice (min first second) (max first second))

/-- Carry out a method of strings that looks at a string only. -/
def runOnText [Machine] (method : TextMethod) (text : Units) (invocation : Invocation) :
    Eval Value := do
  let first := invocation.first
  match method with
  | .at =>
    match ← unitPosition? first text.size true with
    | some position => return .text (text.slice position (position + 1))
    | none => return .undefined
  | .charAt =>
    match ← unitPosition? first text.size false with
    | some position => return .text (text.slice position (position + 1))
    | none => return .text .empty
  | .charCodeAt =>
    match ← unitPosition? first text.size false with
    | some position => return .ofNat (text.unitAt position).toNat
    | none => return .number Decimal.nan
  | .codePointAt =>
    match ← unitPosition? first text.size false with
    | some position => return .ofNat (text.codeAt position).1
    | none => return .undefined
  | .concat =>
    let texts ← invocation.arguments.mapM toText
    let all := texts.foldl (fun found text => found ++ text.codes) text.codes
    if all.size > maxUnits then raiseRange .textLength else makeText ⟨all⟩
  | .isWellFormed => return .boolean (text.codePoints.all (!Units.isSurrogate ·))
  | .toWellFormed =>
    makeText (Units.ofCodes (text.codePoints.map fun code =>
      if Units.isSurrogate code then 0xFFFD else code))
  | .indexOf =>
    let wanted ← toText first
    let start ← toPosition invocation.second text.size 0
    return positionValue (text.find? wanted start)
  | .lastIndexOf => findLast text invocation
  | .includes | .endsWith | .startsWith => return .boolean (← holdsText method text invocation)
  | .substring | .substr | .slice => textBetween method text invocation
  | .repeat => repeatText text first
  | .padEnd => padText text invocation true
  | .padStart => padText text invocation false
  | .trim => makeText text.trim
  | .trimEnd => makeText text.trimEnd
  | .trimStart => makeText text.trimStart
  | .toLowerCase | .toLocaleLowerCase => makeText text.toLower
  | .toUpperCase | .toLocaleUpperCase => makeText text.toUpper
  | .localeCompare =>
    let other ← toText first
    return .number (match compareTexts text other with
      | .lt => -1.0
      | .eq => 0.0
      | .gt => 1.0)
  | .normalize =>
    let form ← if first.isUndefined then pure (Units.ofString "NFC") else toText first
    if normalForms.any fun name => form == Units.ofString name then makeText text
    else raiseRange .normalForm
  | .iterator => makeIterator .text (.characters text 0)
  | .tag method => tagText method text first
  | _ => return .undefined

/-- Carry out a method of strings. -/
def runTextMethod [Machine] (method : TextMethod) (invocation : Invocation) : Eval Value := do
  let this := invocation.this
  let first := invocation.first
  match method with
  | .toString | .valueOf => return .text (← heldText this)
  | .split =>
    if this.isMissing then raiseType .notCoercible
    match ← byPattern first .split #[this, invocation.second] with
    | some found => return found
    | none => splitByText this first invocation.second
  | .replace | .replaceAll =>
    if this.isMissing then raiseType .notCoercible
    match ← byPattern first .replace #[this, invocation.second] with
    | some found => return found
    | none => replaceText this first invocation.second (method = .replaceAll)
  | _ => runOnText method (← thisText this) invocation

end Scratchpad.Script
