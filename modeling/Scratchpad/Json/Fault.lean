/-!
# Faults of a JSON text

What a reader found wrong and where. A place is a line, counted from one, and a column: the number
of bytes of that line that had been taken when the fault was seen.
-/
namespace Scratchpad.Json

/-- What is wrong with a text. -/
inductive FaultKind where
  | endInValue
  | endInList
  | endInObject
  | endInString
  | expectedValue
  | expectedIdent
  | expectedColon
  | expectedListEnd
  | expectedObjectEnd
  | keyNotString
  | trailingComma
  | trailingCharacters
  | invalidNumber
  | numberOutOfRange
  | invalidEscape
  | controlCharacter
  | endOfHexEscape
  | loneSurrogate
  | invalidCodePoint
  | tooDeep
deriving DecidableEq, Repr

/-- The wording of a fault. -/
def FaultKind.message : FaultKind → String
  | .endInValue => "EOF while parsing a value"
  | .endInList => "EOF while parsing a list"
  | .endInObject => "EOF while parsing an object"
  | .endInString => "EOF while parsing a string"
  | .expectedValue => "expected value"
  | .expectedIdent => "expected ident"
  | .expectedColon => "expected `:`"
  | .expectedListEnd => "expected `,` or `]`"
  | .expectedObjectEnd => "expected `,` or `\x7d`"
  | .keyNotString => "key must be a string"
  | .trailingComma => "trailing comma"
  | .trailingCharacters => "trailing characters"
  | .invalidNumber => "invalid number"
  | .numberOutOfRange => "number out of range"
  | .invalidEscape => "invalid escape"
  | .controlCharacter => "control character (\\u0000-\\u001F) found while parsing a string"
  | .endOfHexEscape => "unexpected end of hex escape"
  | .loneSurrogate => "lone leading surrogate in hex escape"
  | .invalidCodePoint => "invalid unicode code point"
  | .tooDeep => "recursion limit exceeded"

/-- A fault at a place of a text. -/
structure Fault where
  /-- What is wrong. -/
  kind : FaultKind
  /-- The line, counted from one. -/
  line : Nat
  /-- Bytes of the line taken when the fault was seen. -/
  column : Nat
deriving DecidableEq, Repr

/-- The line and column after some bytes. -/
def place (taken : List UInt8) : Nat × Nat :=
  taken.foldl (fun (at_ : Nat × Nat) (byte : UInt8) =>
    if byte = 10 then (at_.1 + 1, 0) else (at_.1, at_.2 + 1)) (1, 0)

/-- The fault of a kind seen when `left` bytes of a text had not been taken. -/
def Fault.seen (bytes : List UInt8) (kind : FaultKind) (left : Nat) : Fault :=
  let (line, column) := place (bytes.take (bytes.length - left))
  ⟨kind, line, column⟩

/-- The wording of a fault with its place. -/
def Fault.message (fault : Fault) : String :=
  fault.kind.message ++ " at line " ++ toString fault.line ++ " column " ++ toString fault.column

end Scratchpad.Json
