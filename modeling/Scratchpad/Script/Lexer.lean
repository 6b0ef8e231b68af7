import Scratchpad.Decimal.Reading
import Scratchpad.Script.Token
import Scratchpad.Text.Letters

/-!
# Reading tokens

One token is read at an index of the source; what stands before it is blanks and comments. A faulty
token is reported by the wording that a snippet sees.
-/
namespace Scratchpad.Script.Lexer

open Scratchpad.Text (Units)
open Scratchpad.Decimal (digitIn?)

/-- Whether a unit is a decimal digit. -/
def isDigit (unit : UInt16) : Bool := 48 ≤ unit && unit ≤ 57

/-- Whether a unit ends a line. -/
def endsLine (unit : UInt16) : Bool :=
  unit = 10 || unit = 13 || unit = 0x2028 || unit = 0x2029

/-- Whether a plain text stands at an index. -/
def holds (source : Units) (index : Nat) (text : String) : Bool :=
  source.occursAt (Units.ofString text) index

/-! ## Blanks and comments -/

/-- The end of a comment that lasts to the end of its line. -/
def lineEnd (source : Units) (index : Nat) : Nat := source.skipWhile (!endsLine ·) index

/-- Whether a line ends between two indices. -/
def hasLineEnd (source : Units) (start stop : Nat) : Bool :=
  source.skipWhile (!endsLine ·) start < stop

/-- Whether a comment may begin with a unit. -/
def beginsComment (unit : UInt16) : Bool := unit = 47 || unit = 60 || unit = 45

/-- Skip blanks and comments, at most `fuel` of them: the index after them, and whether a line ended
in them. -/
def skipFrom (source : Units) : Nat → Nat → Bool → Except String (Nat × Bool)
  | 0, index, newline => .ok (index, newline)
  | fuel + 1, index, newline =>
    if index ≥ source.size then .ok (index, newline)
    else
      let unit := source.unitAt index
      if endsLine unit then skipFrom source fuel (index + 1) true
      else if Units.isSpace unit then skipFrom source fuel (index + 1) newline
      else if !beginsComment unit then .ok (index, newline)
      else if holds source index "//" || holds source index "<!--" then
        skipFrom source fuel (lineEnd source index) newline
      else if holds source index "-->" && (newline || index = 0) then
        skipFrom source fuel (lineEnd source index) newline
      else if holds source index "/*" then
        match source.find? (Units.ofString "*/") (index + 2) with
        | some stop =>
          skipFrom source fuel (stop + 2) (newline || hasLineEnd source index stop)
        | none => .error "unexpected end of comment"
      else .ok (index, newline)

/-- Skip every blank and comment. -/
def skip (source : Units) (index : Nat) : Except String (Nat × Bool) :=
  skipFrom source (source.size + 1 - index) index false

/-! ## Escapes -/

/-- The value of hexadecimal digits at an index, exactly `count` of them. -/
def hexFrom (source : Units) : Nat → Nat → Nat → Option Nat
  | 0, _, value => some value
  | count + 1, index, value =>
    match digitIn? 16 (source.unitAt index).toNat with
    | some digit => hexFrom source count (index + 1) (value * 16 + digit)
    | none => none

/-- The code point in braces that begins at an index, and the index after the closing brace. -/
def bracedFrom (source : Units) : Nat → Nat → Nat → Nat → Option (Nat × Nat)
  | 0, _, _, _ => none
  | fuel + 1, index, value, count =>
    if source.unitAt index = 125 then if count = 0 then none else some (value, index + 1)
    else
      match digitIn? 16 (source.unitAt index).toNat with
      | some digit =>
        let value := value * 16 + digit
        if value > 0x10FFFF then none else bracedFrom source fuel (index + 1) value (count + 1)
      | none => none

/-- The code point of an escape after `\u`, and the index after it. -/
def unicodeEscape (source : Units) (index : Nat) : Option (Nat × Nat) :=
  if source.unitAt index = 123 then bracedFrom source source.size (index + 1) 0 0
  else (hexFrom source 4 index 0).map fun value => (value, index + 4)

/-- What an escape stands for. -/
inductive Escape where
  /-- A code point; reading goes on at the index. -/
  | code (value stop : Nat)
  /-- Nothing at all. -/
  | nothing (stop : Nat)
  | malformed
  /-- An octal form that strict code does not have. -/
  | octal

/-- The octal escape at an index: up to three digits and less than 256. -/
def octalEscape (source : Units) (index : Nat) : Escape :=
  let digit (offset : Nat) : Option Nat := digitIn? 8 (source.unitAt (index + offset)).toNat
  let first := (digit 0).getD 0
  match digit 1 with
  | none => .code first (index + 1)
  | some second =>
    let value := first * 8 + second
    match digit 2 with
    | some third =>
      if value < 32 then .code (value * 8 + third) (index + 3) else .code value (index + 2)
    | none => .code value (index + 2)

/-- The escape of a digit at an index. -/
def digitEscape (source : Units) (strict template : Bool) (index : Nat) : Escape :=
  let unit := source.unitAt index
  if !strict && !template then
    if unit ≥ 56 then .code unit.toNat (index + 1) else octalEscape source index
  else if unit = 48 && !isDigit (source.unitAt (index + 1)) then .code 0 (index + 1)
  else if unit ≥ 56 || template then .malformed
  else .octal

/-- The escape that follows a backslash at an index. -/
def escape (source : Units) (strict template : Bool) (index : Nat) : Escape :=
  let unit := source.unitAt index
  let next := index + 1
  if unit = 13 then .nothing (if source.unitAt next = 10 then next + 1 else next)
  else if unit = 10 || unit = 0x2028 || unit = 0x2029 then .nothing next
  else if isDigit unit then digitEscape source strict template index
  else if unit = 98 then .code 8 next
  else if unit = 102 then .code 12 next
  else if unit = 110 then .code 10 next
  else if unit = 114 then .code 13 next
  else if unit = 116 then .code 9 next
  else if unit = 118 then .code 11 next
  else if unit = 120 then
    match hexFrom source 2 next 0 with
    | some value => .code value (next + 2)
    | none => .malformed
  else if unit = 117 then
    match unicodeEscape source next with
    | some (value, stop) => .code value stop
    | none => .malformed
  else .code unit.toNat next

/-! ## Strings and templates -/

/-- Read a string up to its quote, behind the units read so far. -/
def stringFrom (source : Units) (strict : Bool) (quote : UInt16) :
    Nat → Nat → Array UInt16 → Except String (Units × Nat)
  | 0, _, _ => .error "unexpected end of string"
  | fuel + 1, index, read =>
    if index ≥ source.size then .error "unexpected end of string"
    else
      let unit := source.unitAt index
      if unit = quote then .ok (⟨read⟩, index + 1)
      else if unit = 10 || unit = 13 then .error "unexpected end of string"
      else if unit = 92 then
        if index + 1 ≥ source.size then .error "unexpected end of string"
        else
          match escape source strict false (index + 1) with
          | .code value stop =>
            stringFrom source strict quote fuel stop (Units.pushCode read value)
          | .nothing stop => stringFrom source strict quote fuel stop read
          | .malformed => .error "malformed escape sequence in string literal"
          | .octal => .error "octal escape sequences are not allowed in strict mode"
      else stringFrom source strict quote fuel (index + 1) (read.push unit)

/-- The value of a piece of a template between two indices; none if an escape means nothing. -/
def cookFrom (source : Units) (stop : Nat) : Nat → Nat → Array UInt16 → Option Units
  | 0, _, read => some ⟨read⟩
  | fuel + 1, index, read =>
    if index ≥ stop then some ⟨read⟩
    else
      let unit := source.unitAt index
      if unit = 92 then
        match escape source true true (index + 1) with
        | .code value next => cookFrom source stop fuel next (Units.pushCode read value)
        | .nothing next => cookFrom source stop fuel next read
        | .malformed | .octal => none
      else if unit = 13 then
        let next := if source.unitAt (index + 1) = 10 then index + 2 else index + 1
        cookFrom source stop fuel next (read.push 10)
      else cookFrom source stop fuel (index + 1) (read.push unit)

/-- The text of a piece of a template as it is written, every line end as a line feed. -/
def rawFrom (source : Units) (stop : Nat) : Nat → Nat → Array UInt16 → Units
  | 0, _, read => ⟨read⟩
  | fuel + 1, index, read =>
    if index ≥ stop then ⟨read⟩
    else if source.unitAt index = 13 then
      let next := if source.unitAt (index + 1) = 10 then index + 2 else index + 1
      rawFrom source stop fuel next (read.push 10)
    else rawFrom source stop fuel (index + 1) (read.push (source.unitAt index))

/-- The end of a piece of a template, and whether it is the last. -/
def pieceEnd (source : Units) : Nat → Nat → Option (Nat × Bool)
  | 0, _ => none
  | fuel + 1, index =>
    if index ≥ source.size then none
    else
      let unit := source.unitAt index
      if unit = 96 then some (index, true)
      else if unit = 36 && source.unitAt (index + 1) = 123 then some (index, false)
      else if unit = 92 then pieceEnd source fuel (index + 2)
      else pieceEnd source fuel (index + 1)

/-- Read a piece of a template that begins at an index. -/
def template (source : Units) (index : Nat) : Except String (Token × Nat) :=
  match pieceEnd source (source.size + 1 - index) index with
  | none => .error "unexpected end of string"
  | some (stop, last) =>
    let fuel := stop - index
    .ok (.template (cookFrom source stop fuel index #[]) (rawFrom source stop fuel index #[]) last,
      if last then stop + 1 else stop + 2)

/-! ## Numbers -/

/-- Whether a unit is a digit of a base, or the mark between digits. -/
def isDigitOrMark (base : Nat) (unit : UInt16) : Bool :=
  unit = 95 || (digitIn? base unit.toNat).isSome

/-- Whether marks stand only between digits. -/
def marksFit : List Nat → Bool
  | [] => true
  | [last] => last ≠ 95
  | first :: second :: rest => !(first = 95 && second = 95) && marksFit (second :: rest)

/-- The digits between two indices without marks, if there are any and the marks fit. -/
def digitsBetween (source : Units) (start stop : Nat) : Option (List Nat) :=
  let codes := (source.slice start stop).codes.toList.map UInt16.toNat
  if codes.isEmpty || codes.head? = some 95 || !marksFit codes then none
  else some (codes.filter (· ≠ 95))

/-- The end of the digits of a base from an index on. -/
def digitsEnd (source : Units) (base index : Nat) : Nat :=
  source.skipWhile (isDigitOrMark base) index

/-- The base that a letter after a zero names. -/
def baseOf? (unit : UInt16) : Option Nat :=
  if unit = 120 || unit = 88 then some 16
  else if unit = 111 || unit = 79 then some 8
  else if unit = 98 || unit = 66 then some 2
  else none

/-- A number token that ends at an index, or a big one if its suffix follows. -/
def whole (source : Units) (value stop : Nat) : Token × Nat :=
  if source.unitAt stop = 110 then (.bigint value, stop + 1)
  else (.number (Decimal.ofNat value), stop)

/-- The exponent at an index and the index after it; zero if there is none. -/
def exponent (source : Units) (index : Nat) : Option (Int × Nat) :=
  let mark := source.unitAt index
  if mark ≠ 101 && mark ≠ 69 then some (0, index)
  else
    let sign := source.unitAt (index + 1)
    let start := if sign = 43 || sign = 45 then index + 2 else index + 1
    let stop := digitsEnd source 10 start
    if start = stop then some (0, index)
    else
      (digitsBetween source start stop).map fun codes =>
        let size : Int := Decimal.ofBase 10 codes
        (if sign = 45 then -size else size, stop)

/-- A decimal number whose whole digits end at an index. -/
def decimalAt (source : Units) (start stop : Nat) : Option (Token × Nat) := do
  let whole ← if start = stop then some [] else digitsBetween source start stop
  let (fraction, stop) ←
    if source.unitAt stop = 46 then
      let next := digitsEnd source 10 (stop + 1)
      if next = stop + 1 then some ([], next)
      else (digitsBetween source (stop + 1) next).map fun digits => (digits, next)
    else some ([], stop)
  let (power, stop) ← exponent source stop
  some (.number (Decimal.ofDigits (Decimal.ofBase 10 (whole ++ fraction))
    (power - fraction.length)), stop)

/-- A number at an index; none if its form is wrong. -/
def number? (source : Units) (index : Nat) : Option (Token × Nat) :=
  let first := source.unitAt index
  let second := source.unitAt (index + 1)
  match if first = 48 then baseOf? second else none with
  | some base => do
    let stop := digitsEnd source base (index + 2)
    let digits ← digitsBetween source (index + 2) stop
    some (whole source (Decimal.ofBase base digits) stop)
  | none =>
    if first = 48 && isDigit second then
      let stop := source.skipWhile isDigit index
      let codes := (source.slice index stop).codes.toList.map UInt16.toNat
      if codes.all (· < 56) then some (.number (Decimal.ofNat (Decimal.ofBase 8 codes)), stop)
      else decimalAt source index stop
    else
      let stop := digitsEnd source 10 index
      if source.unitAt stop = 110 && stop > index && !(first = 48 && stop > index + 1) then do
        let digits ← digitsBetween source index stop
        some (whole source (Decimal.ofBase 10 digits) stop)
      else decimalAt source index stop

/-- Read a number; what follows it must not continue a name. -/
def number (source : Units) (index : Nat) : Except String (Token × Nat) :=
  match number? source index with
  | none => .error "invalid number literal"
  | some (token, stop) =>
    if stop < source.size && Text.continuesName (source.codeAt stop).1 then
      .error "invalid number literal"
    else .ok (token, stop)

/-! ## Names -/

/-- Read the rest of a name: its units, whether it holds an escape, and the index after it. -/
def nameFrom (source : Units) : Nat → Nat → Array UInt16 → Bool → Units × Bool × Nat
  | 0, index, read, escaped => (⟨read⟩, escaped, index)
  | fuel + 1, index, read, escaped =>
    if index ≥ source.size then (⟨read⟩, escaped, index)
    else
      let (code, width) := source.codeAt index
      if code = 92 && source.unitAt (index + 1) = 117 then
        match unicodeEscape source (index + 2) with
        | some (value, stop) =>
          let fits := if read.isEmpty then Text.startsName value else Text.continuesName value
          if fits then nameFrom source fuel stop (Units.pushCode read value) true
          else (⟨read⟩, escaped, index)
        | none => (⟨read⟩, escaped, index)
      else if if read.isEmpty then Text.startsName code else Text.continuesName code then
        nameFrom source fuel (index + width) (Units.pushCode read code) escaped
      else (⟨read⟩, escaped, index)

/-- Read a name at an index; it is empty if none begins there. -/
def name (source : Units) (index : Nat) : Units × Bool × Nat :=
  nameFrom source (source.size - index) index #[] false

/-! ## Tokens -/

/-- The punctuators of more than one character, a longer one before its own beginning. -/
def longPunctuators : List String :=
  [">>>=", "...", "===", "!==", "**=", "<<=", ">>=", ">>>", "&&=", "||=", "??=", "=>", "==", "!=",
    "<=", ">=", "&&", "||", "??", "?.", "++", "--", "+=", "-=", "*=", "/=", "%=", "&=", "|=", "^=",
    "<<", ">>", "**"]

/-- The long punctuators with their units. -/
def longPunctuatorUnits : List (String × Units) :=
  longPunctuators.map fun text => (text, Units.ofString text)

/-- Read a punctuator; any other ASCII character is one by itself. -/
def punctuator (source : Units) (index : Nat) : Token × Nat :=
  let unit := source.unitAt index
  match longPunctuatorUnits.find? fun entry =>
    unit == entry.2.unitAt 0 && source.occursAt entry.2 index &&
      !(entry.1 == "?." && isDigit (source.unitAt (index + 2))) with
  | some (text, units) => (.punctuator text, index + units.size)
  | none => (.punctuator (Char.ofNat unit.toNat).toString, index + 1)

/-- Read the token at an index at which one begins. -/
def tokenAt (mode : Mode) (source : Units) (index : Nat) : Except String (Token × Nat) :=
  if index ≥ source.size then .ok (.finish, source.size)
  else
    let unit := source.unitAt index
    if unit = 39 || unit = 34 then do
      let (value, stop) ←
        stringFrom source mode.strict unit (source.size - index) (index + 1) #[]
      .ok (.text value, stop)
    else if unit = 96 then template source (index + 1)
    else if isDigit unit || (unit = 46 && isDigit (source.unitAt (index + 1))) then
      if mode.strict && unit = 48 && isDigit (source.unitAt (index + 1)) then
        .error "Octal literals are not allowed in strict mode"
      else number source index
    else if unit = 35 then
      let (found, _, stop) := name source (index + 1)
      if found.isEmpty then .error "invalid first character of private name"
      else .ok (.hidden found, stop)
    else
      let (found, escaped, stop) := name source index
      if !found.isEmpty then .ok (mode.word found escaped, stop)
      else if unit < 128 then .ok (punctuator source index)
      else .error "unexpected character"

/-- Read the next token from an index on. -/
def next (mode : Mode) (source : Units) (index : Nat) : Except String Scanned := do
  let (start, newline) ← skip source index
  let (token, stop) ← tokenAt mode source start
  .ok { token, start, stop, newline }

/-- The end of a regular expression whose body begins at an index. -/
def regexEnd (source : Units) : Nat → Nat → Bool → Option Nat
  | 0, _, _ => none
  | fuel + 1, index, inClass =>
    if index ≥ source.size || endsLine (source.unitAt index) then none
    else
      let unit := source.unitAt index
      if unit = 92 then regexEnd source fuel (index + 2) inClass
      else if unit = 91 then regexEnd source fuel (index + 1) true
      else if unit = 93 then regexEnd source fuel (index + 1) false
      else if unit = 47 && !inClass then some (index + 1)
      else regexEnd source fuel (index + 1) inClass

/-- Read a regular expression whose first slash stands at an index. -/
def regex (source : Units) (index : Nat) : Except String (Token × Nat) :=
  match regexEnd source (source.size - index) (index + 1) false with
  | none => .error "unexpected end of regexp"
  | some stop =>
    let stop := source.skipWhile (fun unit => Text.continuesName unit.toNat) stop
    .ok (.regex (source.slice index stop), stop)

end Scratchpad.Script.Lexer
