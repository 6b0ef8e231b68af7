import Scratchpad.Json.Value

/-!
# Writing JSON

The shortest form of a value: no white space, and in a string an escape only for a quote, a
backslash and a control character, a letter where JSON has one and four hexadecimal digits
elsewhere.
-/
namespace Scratchpad.Json

/-- The digit of a value below sixteen. -/
def hexDigit (value : Nat) : Char := Nat.digitChar value

/-- The characters that stand for one character of a string. -/
def escapeChar (c : Char) : List Char :=
  if c = '"' then ['\\', '"']
  else if c = '\\' then ['\\', '\\']
  else if c.toNat ≥ 32 then [c]
  else if c.toNat = 8 then ['\\', 'b']
  else if c.toNat = 12 then ['\\', 'f']
  else if c = '\n' then ['\\', 'n']
  else if c = '\r' then ['\\', 'r']
  else if c = '\t' then ['\\', 't']
  else ['\\', 'u', '0', '0', hexDigit (c.toNat / 16), hexDigit (c.toNat % 16)]

/-- A string between quotes. -/
def quote (text : String) : List Char := '"' :: text.toList.flatMap escapeChar ++ ['"']

/-- Pieces with a comma between each two. -/
def commaSeparated : List (List Char) → List Char
  | [] => []
  | [piece] => piece
  | piece :: rest => piece ++ ',' :: commaSeparated rest

mutual

/-- The written form of a value. -/
def write : Value → List Char
  | .null => "null".toList
  | .boolean true => "true".toList
  | .boolean false => "false".toList
  | .number literal => literal
  | .text value => quote value
  | .array items => '[' :: commaSeparated (writeItems items) ++ [']']
  | .object members => '\x7b' :: commaSeparated (writeMembers members) ++ ['\x7d']

/-- The written forms of the items of a list. -/
def writeItems : List Value → List (List Char)
  | [] => []
  | item :: rest => write item :: writeItems rest

/-- The written forms of the members of an object. -/
def writeMembers : List (String × Value) → List (List Char)
  | [] => []
  | (name, value) :: rest => (quote name ++ ':' :: write value) :: writeMembers rest

end

/-- The written form of a value as a string. -/
def render (value : Value) : String := String.ofList (write value)

end Scratchpad.Json
