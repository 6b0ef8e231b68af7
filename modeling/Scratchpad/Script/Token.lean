import Scratchpad.Text.Units

/-!
# Tokens of a script

What the source of a script is read as. Which words are reserved depends on where they stand, so a
reader of tokens is told the mode.
-/
namespace Scratchpad.Script

open Scratchpad.Text (Units)

/-- A token. -/
inductive Token where
  /-- The end of the source. -/
  | finish
  | punctuator (text : String)
  /-- A reserved word. -/
  | keyword (word : String)
  /-- A name; a reserved word that is written with escapes counts as a reserved name. -/
  | identifier (name : Units) (escaped reserved : Bool)
  /-- The name of a private member, without its mark. -/
  | hidden (name : Units)
  | number (value : Float)
  | bigint (value : Int)
  | text (value : Units)
  /-- A piece of a template, without a value if its escapes mean nothing; the last piece ends it. -/
  | template (value : Option Units) (raw : Units) (last : Bool)
  | regex (source : Units)
deriving Inhabited

namespace Token

/-- Whether a token is a punctuator. -/
def isPunctuator (token : Token) (text : String) : Bool :=
  match token with
  | .punctuator found => found == text
  | _ => false

/-- Whether a token is a reserved word. -/
def isKeyword (token : Token) (word : String) : Bool :=
  match token with
  | .keyword found => found == word
  | _ => false

/-- Whether a token is a word without special meaning elsewhere, written without escapes. -/
def isWord (token : Token) (word : String) : Bool :=
  match token with
  | .identifier name escaped _ => !escaped && name == Units.ofString word
  | _ => false

/-- Whether a token is a name that may be used. -/
def isName (token : Token) : Bool :=
  match token with
  | .identifier _ _ reserved => !reserved
  | _ => false

/-- The name of a member that a token spells: any word, reserved or not. -/
def memberName? : Token → Option Units
  | .identifier name _ _ => some name
  | .keyword word => some (Units.ofString word)
  | _ => none

end Token

/-- The words that are reserved everywhere. -/
def reservedWords : List String :=
  ["null", "false", "true", "if", "else", "return", "var", "this", "delete", "void", "typeof",
    "new", "in", "instanceof", "do", "while", "for", "break", "continue", "switch", "case",
    "default", "throw", "try", "catch", "finally", "function", "debugger", "with", "class",
    "const", "enum", "export", "extends", "import", "super"]

/-- The words that are reserved in strict code. -/
def strictWords : List String :=
  ["implements", "interface", "let", "package", "private", "protected", "public", "static",
    "yield"]

/-- What decides how source is read as tokens. -/
structure Mode where
  strict : Bool
  /-- Whether `yield` is reserved. -/
  yields : Bool
  /-- Whether `await` is reserved. -/
  awaits : Bool
deriving Inhabited

/-- The reserved word that a name is, if it is one. -/
def Mode.reserved? (mode : Mode) (name : Units) : Option String :=
  if name.size > 10 then none
  else
    match name.decode with
    | .error _ => none
    | .ok chars =>
      let word := String.ofList chars
      if reservedWords.contains word || (mode.strict && strictWords.contains word) ||
          (mode.yields && word == "yield") || (mode.awaits && word == "await") then some word
      else none

/-- The token of a name. -/
def Mode.word (mode : Mode) (name : Units) (escaped : Bool) : Token :=
  match mode.reserved? name with
  | some word => if escaped then .identifier name true true else .keyword word
  | none => .identifier name escaped false

/-- A token with its place. -/
structure Scanned where
  token : Token
  /-- The index of its first unit. -/
  start : Nat
  /-- The index after its last unit. -/
  stop : Nat
  /-- Whether a line ended between the token before and this one. -/
  newline : Bool
deriving Inhabited

end Scratchpad.Script
