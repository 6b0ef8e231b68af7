import Scratchpad.Json.Value
import Scratchpad.Json.Fault
import Scratchpad.Text.Utf8

/-!
# Reading JSON

A reader takes bytes from the front of a list and returns what it read with the bytes after it, or
the kind of the first fault with the number of bytes left behind the place of it. Nesting is
limited: the bracket that would open level 128 is a fault. A number is read for its form and for
whether it is finite; a string for its escapes, its control characters and, once its closing quote
has been found, for being valid UTF-8.
-/
namespace Scratchpad.Json

/-- A fault and the number of bytes left behind its place. -/
abbrev Stop := FaultKind × Nat

/-- What a reader found, and the bytes after it. -/
abbrev Found (α : Type) := α × List UInt8

/-- A fault at the bytes already taken. -/
def faultHere {α : Type} (kind : FaultKind) (rest : List UInt8) : Except Stop α :=
  .error (kind, rest.length)

/-- A fault at the next byte, or at the end if there is none. -/
def faultNext {α : Type} (kind : FaultKind) (rest : List UInt8) : Except Stop α :=
  .error (kind, rest.length - 1)

/-- The code of an ASCII character. -/
def code (c : Char) : UInt8 := c.toNat.toUInt8

/-- Whether a byte is a space, tab, line feed or carriage return. -/
def isSpace (byte : UInt8) : Bool := byte = 32 || byte = 9 || byte = 10 || byte = 13

/-- The bytes after white space. -/
def skipSpace (bytes : List UInt8) : List UInt8 := bytes.dropWhile isSpace

/-- Whether a byte is a decimal digit. -/
def isDigit (byte : UInt8) : Bool := 48 ≤ byte && byte ≤ 57

/-- The value of a decimal digit. -/
def digitValue (byte : UInt8) : Nat := byte.toNat - 48

/-- The value of a hexadecimal digit. -/
def hexValue? (byte : UInt8) : Option Nat :=
  if isDigit byte then some (digitValue byte)
  else if 97 ≤ byte && byte ≤ 102 then some (byte.toNat - 87)
  else if 65 ≤ byte && byte ≤ 70 then some (byte.toNat - 55)
  else none

/-! ## Words -/

/-- Take the bytes of a word whose first letter has been taken. -/
def word (value : Value) : List UInt8 → List UInt8 → Except Stop (Found Value)
  | [], rest => .ok (value, rest)
  | _ :: _, [] => faultHere .endInValue []
  | expected :: letters, byte :: rest =>
    if byte = expected then word value letters rest else faultHere .expectedIdent rest

/-! ## Numbers -/

/-- The largest significand that is kept exactly; further digits only scale the number. -/
def significandLimit : Nat := 18446744073709551615

/-- A digit appended to a significand, if the result is kept exactly. -/
def appendDigit? (significand digit : Nat) : Option Nat :=
  let next := significand * 10 + digit
  if next ≤ significandLimit then some next else none

/-- The largest exponent that is read; beyond it a number is zero or out of range. -/
def exponentLimit : Nat := 2147483647

/-- Whether a significand scaled by a power of ten is finite, dividing at most `fuel` times by the
largest power of ten before the last step. -/
def finiteScaled : Nat → Float → Int → Bool
  | 0, _, _ => true
  | fuel + 1, value, exponent =>
    if exponent.natAbs ≤ 308 then
      if exponent ≥ 0 then !(value * Float.ofScientific 1 false exponent.toNat).isInf else true
    else if value == 0.0 then true
    else if exponent ≥ 0 then false
    else finiteScaled fuel (value / Float.ofScientific 1 false 308) (exponent + 308)

/-- The end of a number: a fault if it is not finite. -/
def finish (significand : Nat) (exponent : Int) (rest : List UInt8) : Except Stop (List UInt8) :=
  if finiteScaled 8000000 (Float.ofNat significand) exponent then .ok rest
  else faultHere .numberOutOfRange rest

/-- The digits of an exponent, after the first one. -/
def exponentDigits (significand : Nat) (start : Int) (positive : Bool) :
    Nat → List UInt8 → Except Stop (List UInt8)
  | exponent, byte :: rest =>
    if isDigit byte then
      let next := exponent * 10 + digitValue byte
      if next > exponentLimit then
        if significand != 0 && positive then faultHere .numberOutOfRange rest
        else .ok (rest.dropWhile isDigit)
      else exponentDigits significand start positive next rest
    else finish significand (if positive then start + exponent else start - exponent) (byte :: rest)
  | exponent, [] => finish significand (if positive then start + exponent else start - exponent) []

/-- The exponent of a number, after its mark. -/
def exponentPart (significand : Nat) (start : Int) (bytes : List UInt8) : Except Stop (List UInt8) :=
  let (positive, digits) := match bytes with
    | byte :: rest =>
      if byte = code '+' then (true, rest) else if byte = code '-' then (false, rest)
      else (true, bytes)
    | [] => (true, [])
  match digits with
  | [] => faultHere .endInValue []
  | byte :: rest =>
    if isDigit byte then exponentDigits significand start positive (digitValue byte) rest
    else faultHere .invalidNumber rest

/-- What may follow the digits of a number: an exponent or nothing. -/
def exponentOrEnd (significand : Nat) (exponent : Int) (bytes : List UInt8) : Except Stop (List UInt8) :=
  match bytes with
  | byte :: rest =>
    if byte = code 'e' || byte = code 'E' then exponentPart significand exponent rest
    else finish significand exponent bytes
  | [] => finish significand exponent []

/-- The digits after a point, of which `taken` have been read. -/
def fractionDigits (scale : Int) (taken : Nat) : Nat → List UInt8 → Except Stop (List UInt8)
  | significand, byte :: rest =>
    if isDigit byte then
      match appendDigit? significand (digitValue byte) with
      | some next => fractionDigits scale (taken + 1) next rest
      | none => exponentOrEnd significand (scale - taken) ((byte :: rest).dropWhile isDigit)
    else if taken = 0 then faultNext .invalidNumber (byte :: rest)
    else exponentOrEnd significand (scale - taken) (byte :: rest)
  | significand, [] =>
    if taken = 0 then faultNext .endInValue [] else exponentOrEnd significand (scale - taken) []

/-- What may follow the whole digits of a number, scaled by the digits that were not kept. -/
def afterWhole (significand : Nat) (scale : Int) (bytes : List UInt8) : Except Stop (List UInt8) :=
  match bytes with
  | byte :: rest =>
    if byte = code '.' then fractionDigits scale 0 significand rest
    else exponentOrEnd significand scale bytes
  | [] => finish significand scale []

/-- The whole digits of a number after its first one. -/
def wholeDigits : Nat → List UInt8 → Except Stop (List UInt8)
  | significand, byte :: rest =>
    if isDigit byte then
      match appendDigit? significand (digitValue byte) with
      | some next => wholeDigits next rest
      | none =>
        let dropped := (byte :: rest).takeWhile isDigit
        afterWhole significand dropped.length ((byte :: rest).dropWhile isDigit)
    else afterWhole significand 0 (byte :: rest)
  | significand, [] => afterWhole significand 0 []

/-- A number after its sign. -/
def unsignedNumber : List UInt8 → Except Stop (List UInt8)
  | [] => faultHere .endInValue []
  | byte :: rest =>
    if byte = code '0' then
      match rest with
      | next :: _ => if isDigit next then faultNext .invalidNumber rest else afterWhole 0 0 rest
      | [] => afterWhole 0 0 rest
    else if isDigit byte then wholeDigits (digitValue byte) rest
    else faultHere .invalidNumber rest

/-- A number that starts at the front of the bytes. -/
def number (bytes : List UInt8) : Except Stop (Found Value) := do
  let unsigned := match bytes with
    | byte :: rest => if byte = code '-' then rest else bytes
    | [] => []
  let rest ← unsignedNumber unsigned
  let taken := bytes.take (bytes.length - rest.length)
  return (.number (taken.map fun byte => Char.ofNat byte.toNat), rest)

/-! ## Strings -/

/-- Four hexadecimal digits. -/
def hexEscape : List UInt8 → Except Stop (Found Nat)
  | a :: b :: c :: d :: rest =>
    match hexValue? a, hexValue? b, hexValue? c, hexValue? d with
    | some a, some b, some c, some d => .ok (((a * 16 + b) * 16 + c) * 16 + d, rest)
    | _, _, _, _ => faultHere .invalidEscape rest
  | _ => faultHere .endInString []

/-- The character of an escape by code, after its letter: a pair of surrogates is one character,
and a surrogate alone is a fault. -/
def unicodeEscape (bytes : List UInt8) : Except Stop (Found Char) := do
  let (unit, rest) ← hexEscape bytes
  if 0xDC00 ≤ unit && unit ≤ 0xDFFF then faultHere .loneSurrogate rest
  else if unit < 0xD800 || 0xDBFF < unit then return (Char.ofNat unit, rest)
  else
    match rest with
    | [] => faultHere .endInString []
    | slash :: rest =>
      if slash ≠ code '\\' then faultHere .endOfHexEscape rest
      else
        match rest with
        | [] => faultHere .endInString []
        | letter :: rest =>
          if letter ≠ code 'u' then faultHere .endOfHexEscape rest
          else
            let (second, rest) ← hexEscape rest
            if second < 0xDC00 || 0xDFFF < second then faultHere .loneSurrogate rest
            else
              return (Char.ofNat (0x10000 + (unit - 0xD800) * 0x400 + (second - 0xDC00)), rest)

/-- The character of an escape, after its backslash. -/
def escape : List UInt8 → Except Stop (Found Char)
  | [] => faultHere .endInString []
  | byte :: rest =>
    if byte = code '"' then .ok ('"', rest)
    else if byte = code '\\' then .ok ('\\', rest)
    else if byte = code '/' then .ok ('/', rest)
    else if byte = code 'b' then .ok (Char.ofNat 8, rest)
    else if byte = code 'f' then .ok (Char.ofNat 12, rest)
    else if byte = code 'n' then .ok ('\n', rest)
    else if byte = code 'r' then .ok ('\r', rest)
    else if byte = code 't' then .ok ('\t', rest)
    else if byte = code 'u' then unicodeEscape rest
    else faultHere .invalidEscape rest

/-- A part of a string: bytes as they stand, with the number of bytes left at their end, or the
character of an escape. -/
inductive Piece where
  | raw (bytes : List UInt8) (left : Nat)
  | escaped (value : Char)

/-- Whether a byte may stand for itself in a string. -/
def isPlain (byte : UInt8) : Bool := byte ≥ 32 && byte ≠ code '"' && byte ≠ code '\\'

/-- The parts of a string up to its closing quote, latest first. -/
def pieces : Nat → List Piece → List UInt8 → Except Stop (Found (List Piece))
  | 0, _, rest => faultHere .endInString rest
  | fuel + 1, found, bytes =>
    let plain := bytes.takeWhile isPlain
    let rest := bytes.dropWhile isPlain
    let found := if plain.isEmpty then found else .raw plain rest.length :: found
    match rest with
    | [] => faultHere .endInString []
    | byte :: rest =>
      if byte = code '"' then .ok (found, rest)
      else if byte = code '\\' then do
        let (value, rest) ← escape rest
        pieces fuel (.escaped value :: found) rest
      else faultHere .controlCharacter rest

/-- The characters of the parts of a string. -/
def assemble : List Piece → Except Stop (List Char)
  | [] => .ok []
  | .escaped value :: rest => do return value :: (← assemble rest)
  | .raw bytes left :: rest =>
    match Text.Utf8.decode bytes with
    | .ok chars => do return chars ++ (← assemble rest)
    | .error remaining => .error (.invalidCodePoint, left + remaining - 1)

/-- A string after its opening quote. -/
def text (bytes : List UInt8) : Except Stop (Found String) := do
  let (found, rest) ← pieces (bytes.length + 1) [] bytes
  let chars ← assemble found.reverse
  return (String.ofList chars, rest)

/-! ## Values -/

/-- The items of a list after its bracket or after an item, latest first; `first` says that there
is no item yet. -/
def items (value : List UInt8 → Except Stop (Found Value)) :
    Nat → Bool → List Value → List UInt8 → Except Stop (Found (List Value))
  | 0, _, _, rest => faultNext .endInList rest
  | fuel + 1, first, found, bytes =>
    match skipSpace bytes with
    | [] => faultNext .endInList []
    | byte :: rest =>
      if byte = code ']' then .ok (found, rest)
      else if first then do
        let (item, rest) ← value (byte :: rest)
        items value fuel false (item :: found) rest
      else if byte = code ',' then
        match skipSpace rest with
        | [] => faultNext .endInValue []
        | next :: rest =>
          if next = code ']' then faultNext .trailingComma (next :: rest)
          else do
            let (item, rest) ← value (next :: rest)
            items value fuel false (item :: found) rest
      else faultNext .expectedListEnd (byte :: rest)

/-- A member of an object after the opening quote of its name. -/
def member (value : List UInt8 → Except Stop (Found Value)) (bytes : List UInt8) :
    Except Stop (Found (String × Value)) := do
  let (name, rest) ← text bytes
  match skipSpace rest with
  | [] => faultNext .endInObject []
  | byte :: rest =>
    if byte = code ':' then
      let (found, rest) ← value (skipSpace rest)
      return ((name, found), rest)
    else faultNext .expectedColon (byte :: rest)

/-- The members of an object after its brace or after a member, latest first. -/
def members (value : List UInt8 → Except Stop (Found Value)) :
    Nat → Bool → List (String × Value) → List UInt8 → Except Stop (Found (List (String × Value)))
  | 0, _, _, rest => faultNext .endInObject rest
  | fuel + 1, first, found, bytes =>
    match skipSpace bytes with
    | [] => faultNext .endInObject []
    | byte :: rest =>
      if byte = code '\x7d' then .ok (found, rest)
      else if first then
        if byte = code '"' then do
          let (found', rest) ← member value rest
          members value fuel false (found' :: found) rest
        else faultNext .keyNotString (byte :: rest)
      else if byte = code ',' then
        match skipSpace rest with
        | [] => faultNext .endInValue []
        | next :: rest =>
          if next = code '"' then do
            let (found', rest) ← member value rest
            members value fuel false (found' :: found) rest
          else if next = code '\x7d' then faultNext .trailingComma (next :: rest)
          else faultNext .keyNotString (next :: rest)
      else faultNext .expectedObjectEnd (byte :: rest)

/-- A value, with at most `depth` levels of brackets open at once. -/
def valueAt : Nat → List UInt8 → Except Stop (Found Value)
  | depth, bytes =>
    match skipSpace bytes with
    | [] => faultNext .endInValue []
    | byte :: rest =>
      if byte = code 'n' then word .null [code 'u', code 'l', code 'l'] rest
      else if byte = code 't' then word (.boolean true) [code 'r', code 'u', code 'e'] rest
      else if byte = code 'f' then
        word (.boolean false) [code 'a', code 'l', code 's', code 'e'] rest
      else if byte = code '-' || isDigit byte then number (byte :: rest)
      else if byte = code '"' then do
        let (value, rest) ← text rest
        return (.text value, rest)
      else if byte = code '[' then
        match depth with
        | 0 => faultNext .tooDeep (byte :: rest)
        | depth + 1 => do
          let (found, rest) ← items (valueAt depth) (rest.length + 1) true [] rest
          return (.array found.reverse, rest)
      else if byte = code '\x7b' then
        match depth with
        | 0 => faultNext .tooDeep (byte :: rest)
        | depth + 1 => do
          let (found, rest) ← members (valueAt depth) (rest.length + 1) true [] rest
          return (.object found.reverse, rest)
      else faultNext .expectedValue (byte :: rest)

/-- The number of levels of brackets that may be open at once. -/
def depthLimit : Nat := 127

/-- The value that a whole text is. -/
def readAll (bytes : List UInt8) : Except Stop Value := do
  let (value, rest) ← valueAt depthLimit bytes
  match skipSpace rest with
  | [] => .ok value
  | next :: rest => faultNext .trailingCharacters (next :: rest)

/-- The value that a whole text is, or its first fault with its place. -/
def parse (bytes : List UInt8) : Except Fault Value :=
  match readAll bytes with
  | .ok value => .ok value
  | .error (kind, left) => .error (Fault.seen bytes kind left)

end Scratchpad.Json
