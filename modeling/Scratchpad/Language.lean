import Scratchpad.Text.Blank

/-!
# Languages of a snippet

The languages in the order of the selector, and their names. A name is read without the blanks
around it and with ASCII capitals made small; each language has a short name besides its own.
-/
namespace Scratchpad

/-- `Language` — a language that a snippet may be written in. -/
inductive Language where
  | javascript
  | python
deriving DecidableEq, Repr, Inhabited

namespace Language

/-- `Language::ALL` — every language, in the order of the selector. -/
def all : List Language := [.javascript, .python]

/-- The language selected at first. -/
def initial : Language := .javascript

/-- `Language::as_str` — the name that the selector shows. -/
def name : Language → String
  | .javascript => "javascript"
  | .python => "python"

/-- The name by which a text is looked up. -/
def normalize (text : String) : String := Text.lowerAscii (Text.trim text)

/-- The language of a normalized name. -/
def ofName? (name : String) : Option Language :=
  if name = "javascript" ∨ name = "js" then some .javascript
  else if name = "python" ∨ name = "py" then some .python
  else none

/-- `Language::from_str` — the language that a text names, or the normalized name that none has. -/
def parse (text : String) : Except String Language :=
  match ofName? (normalize text) with
  | some language => .ok language
  | none => .error (normalize text)

end Language

end Scratchpad
