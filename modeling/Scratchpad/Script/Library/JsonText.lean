import Scratchpad.Script.Numeral

/-!
# JSON in scripts

Reading JSON as scripts do, into a tree whose strings are units and whose numbers are doubles. A
fault tells where it is by bytes, lines and columns.
-/
namespace Scratchpad.Script.JsonText

open Scratchpad.Text (Units)

/-- A JSON value. -/
inductive Tree where
  | null
  | boolean (value : Bool)
  | number (value : Float)
  | text (value : Units)
  | array (items : List Tree)
  | object (members : List (Units × Tree))
deriving Inhabited

/-- A token. -/
inductive Token where
  | finish
  | text (value : Units)
  | number (value : Float)
  | word (value : Units)
  | mark (unit : UInt16)

/-- A token with the indices at which it begins and ends. -/
structure Lexeme where
  token : Token
  start : Nat
  stop : Nat

/-- The number of bytes of code points. -/
def byteCount (codes : List Nat) : Nat :=
  codes.foldl (fun count code => count + Units.codeWidth code) 0

/-- The line and column behind units, each counted from one. -/
def lineAndColumn : List Nat → Nat → Nat → Nat × Nat
  | [], line, column => (line, column)
  | 13 :: 10 :: rest, line, _ => lineAndColumn rest (line + 1) 1
  | code :: rest, line, column =>
    if code = 10 || code = 13 then lineAndColumn rest (line + 1) 1
    else lineAndColumn rest line (column + Units.codeWidth code)

/-- A fault at an index. -/
def faultAt (source : Units) (index : Nat) (message : String) : String :=
  let before := (source.slice 0 index).codePoints
  let (line, column) := lineAndColumn before 1 1
  message ++ " in JSON at position " ++ toString (byteCount before) ++ " (line " ++ toString line ++
    " column " ++ toString column ++ ")"

/-- The fault of a text that ends too early. -/
def endFault : String := "Unexpected end of JSON input"

/-- What a letter after a backslash stands for. -/
def escaped? (unit : UInt16) : Option UInt16 :=
  if unit = 34 || unit = 92 || unit = 47 then some unit
  else if unit = 98 then some 8
  else if unit = 102 then some 12
  else if unit = 110 then some 10
  else if unit = 114 then some 13
  else if unit = 116 then some 9
  else none

/-- The value of hexadecimal digits at an index, or the index of what is no digit. -/
def hexFrom (source : Units) : Nat → Nat → Nat → Except Nat Nat
  | 0, _, value => .ok value
  | count + 1, index, value =>
    match Decimal.digitIn? 16 (source.unitAt index).toNat with
    | some digit => hexFrom source count (index + 1) (value * 16 + digit)
    | none => .error index

/-- Read a string from an index behind its quote on, in at most `fuel` steps: the string and the
index behind the closing quote. -/
def stringFrom (source : Units) : Nat → Nat → Array UInt16 → Except String (Units × Nat)
  | 0, _, _ => .error endFault
  | fuel + 1, index, found =>
    if index ≥ source.size then .error endFault
    else
      let unit := source.unitAt index
      if unit = 34 then .ok (⟨found⟩, index + 1)
      else if unit < 32 then .error (faultAt source index "Bad control character in string literal")
      else if unit ≠ 92 then stringFrom source fuel (index + 1) (found.push unit)
      else if index + 1 ≥ source.size then .error endFault
      else if source.unitAt (index + 1) = 117 then
        match hexFrom source 4 (index + 2) 0 with
        | .ok value => stringFrom source fuel (index + 6) (found.push value.toUInt16)
        | .error place => .error (faultAt source place "Bad Unicode escape")
      else
        match escaped? (source.unitAt (index + 1)) with
        | some unit => stringFrom source fuel (index + 2) (found.push unit)
        | none => .error (faultAt source (index + 1) "Bad escaped character")

/-- Whether a unit is a decimal digit. -/
def isDigit (unit : UInt16) : Bool := 48 ≤ unit && unit ≤ 57

/-- Read a number from an index on: its value and the index behind it. -/
def number (source : Units) (start : Nat) : Except String (Float × Nat) := do
  let first := if source.unitAt start = 45 then start + 1 else start
  if !isDigit (source.unitAt first) then
    throw (faultAt source first "No number after minus sign")
  if source.unitAt first = 48 && isDigit (source.unitAt (first + 1)) then
    throw (faultAt source (first + 1) "Unexpected number")
  let whole := Numeral.digitsEnd source 10 first
  let fraction ← if source.unitAt whole = 46 then
      if isDigit (source.unitAt (whole + 1)) then pure (Numeral.digitsEnd source 10 (whole + 1))
      else throw (faultAt source (whole + 1) "Unterminated fractional number")
    else pure whole
  let unit := source.unitAt fraction
  let stop ← if unit = 101 || unit = 69 then do
      let sign := source.unitAt (fraction + 1)
      let digits := if sign = 43 || sign = 45 then fraction + 2 else fraction + 1
      if isDigit (source.unitAt digits) then pure (Numeral.digitsEnd source 10 digits)
      else throw (faultAt source digits "Exponent part is missing a number")
    else pure fraction
  return (Numeral.toNumber (source.slice start stop), stop)

/-- Whether a unit may stand in a word. -/
def isWordUnit (unit : UInt16) : Bool :=
  (97 ≤ unit && unit ≤ 122) || (65 ≤ unit && unit ≤ 90) || unit = 95 || unit = 36

/-- Whether a unit is a blank. -/
def isBlank (unit : UInt16) : Bool := unit = 32 || unit = 9 || unit = 10 || unit = 13

/-- Read the token from an index on. -/
def next (source : Units) (index : Nat) : Except String Lexeme := do
  let start := source.skipWhile isBlank index
  if start ≥ source.size then return { token := .finish, start, stop := start }
  else
    let unit := source.unitAt start
    if unit = 34 then
      let (value, stop) ← stringFrom source (source.size + 1) (start + 1) #[]
      return { token := .text value, start, stop }
    else if isDigit unit || unit = 45 then
      let (value, stop) ← number source start
      return { token := .number value, start, stop }
    else if isWordUnit unit then
      let stop := source.skipWhile (fun unit => isWordUnit unit || isDigit unit) start
      return { token := .word (source.slice start stop), start, stop }
    else if unit ≥ 128 then throw "unexpected character"
    else return { token := .mark unit, start, stop := start + 1 }

/-- Whether a token is a mark. -/
def Lexeme.isMark (lexeme : Lexeme) (unit : UInt16) : Bool :=
  match lexeme.token with
  | .mark other => other = unit
  | _ => false

/-- The fault of a token that begins no value. -/
def unexpected (source : Units) (lexeme : Lexeme) : String :=
  match lexeme.token with
  | .finish => endFault
  | _ => "Unexpected token '" ++ (source.slice lexeme.start lexeme.stop).lossy ++ "'"

mutual

/-- Read a value that begins with a token, in at most `fuel` steps: the value and the token behind
it. -/
def valueFrom (source : Units) : Nat → Lexeme → Except String (Tree × Lexeme)
  | 0, _ => .error endFault
  | fuel + 1, lexeme => do
    match lexeme.token with
    | .text value => return (.text value, ← next source lexeme.stop)
    | .number value => return (.number value, ← next source lexeme.stop)
    | .word word =>
      let follower ← next source lexeme.stop
      if word == "null" then return (.null, follower)
      else if word == "true" then return (.boolean true, follower)
      else if word == "false" then return (.boolean false, follower)
      else throw (unexpected source lexeme)
    | .mark 91 =>
      let first ← next source lexeme.stop
      if first.isMark 93 then return (.array [], ← next source first.stop)
      else
        let (items, stop) ← itemsFrom source fuel first []
        return (.array items, ← next source stop)
    | .mark 123 =>
      let first ← next source lexeme.stop
      if first.isMark 125 then return (.object [], ← next source first.stop)
      else
        match first.token with
        | .text _ =>
          let (members, stop) ← membersFrom source fuel first []
          return (.object members, ← next source stop)
        | _ => throw (faultAt source first.start "Expected property name or '\x7d'")
    | _ => throw (unexpected source lexeme)

/-- Read the items of an array from one that begins with a token on: the items and the index behind
the closing bracket. -/
def itemsFrom (source : Units) : Nat → Lexeme → List Tree → Except String (List Tree × Nat)
  | 0, _, _ => .error endFault
  | fuel + 1, lexeme, found => do
    let (value, follower) ← valueFrom source fuel lexeme
    if follower.isMark 93 then return ((value :: found).reverse, follower.stop)
    else if follower.isMark 44 then
      itemsFrom source fuel (← next source follower.stop) (value :: found)
    else throw (faultAt source follower.start "Expected ',' or ']' after array element")

/-- Read the members of an object from one that begins with a token on: the members and the index
behind the closing brace. -/
def membersFrom (source : Units) :
    Nat → Lexeme → List (Units × Tree) → Except String (List (Units × Tree) × Nat)
  | 0, _, _ => .error endFault
  | fuel + 1, lexeme, found => do
    match lexeme.token with
    | .text name =>
      let colon ← next source lexeme.stop
      if !colon.isMark 58 then
        throw (faultAt source colon.start "Expected ':' after property name")
      let (value, follower) ← valueFrom source fuel (← next source colon.stop)
      if follower.isMark 125 then return (((name, value) :: found).reverse, follower.stop)
      else if follower.isMark 44 then
        membersFrom source fuel (← next source follower.stop) ((name, value) :: found)
      else throw (faultAt source follower.start "Expected ',' or '\x7d' after property value")
    | _ => throw (faultAt source lexeme.start "Expected double-quoted property name")

end

/-- The value that a whole text is. -/
def parse (source : Units) : Except String Tree := do
  let (value, follower) ← valueFrom source (2 * source.size + 2) (← next source 0)
  match follower.token with
  | .finish => return value
  | _ => throw "unexpected data at the end"

/-- The unit of a digit of base 16. -/
def hexDigit (value : Nat) : UInt16 := (if value < 10 then 48 + value else 87 + value).toUInt16

/-- A unit as an escape. -/
def escapeUnit (unit : UInt16) : Array UInt16 :=
  let value := unit.toNat
  #[92, 117, hexDigit (value / 4096), hexDigit (value / 256 % 16), hexDigit (value / 16 % 16),
    hexDigit (value % 16)]

/-- A code point inside quotes. -/
def quoteCode (found : Array UInt16) (code : Nat) : Array UInt16 :=
  if code = 34 || code = 92 then (found.push 92).push code.toUInt16
  else if code = 8 then (found.push 92).push 98
  else if code = 9 then (found.push 92).push 116
  else if code = 10 then (found.push 92).push 110
  else if code = 12 then (found.push 92).push 102
  else if code = 13 then (found.push 92).push 114
  else if code < 32 || Units.isSurrogate code then found ++ escapeUnit code.toUInt16
  else Units.pushCode found code

/-- A string in quotes. -/
def quote (text : Units) : Array UInt16 :=
  (text.codePoints.foldl quoteCode #[34]).push 34

end Scratchpad.Script.JsonText
