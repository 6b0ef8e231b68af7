/-!
# Blank characters

White space as Unicode's `White_Space` property has it, and text without the blanks at its ends.
Text is taken as a list of characters, so that each fact is one about lists.
-/
namespace Scratchpad.Text

/-- Whether a character has the property `White_Space`. -/
def isBlank (c : Char) : Bool :=
  let code := c.toNat
  (0x09 ≤ code && code ≤ 0x0D) || code == 0x20 || code == 0x85 || code == 0xA0 ||
    code == 0x1680 || (0x2000 ≤ code && code ≤ 0x200A) || code == 0x2028 || code == 0x2029 ||
    code == 0x202F || code == 0x205F || code == 0x3000

/-- The characters from the first one that is not blank. -/
def trimStart (text : List Char) : List Char := text.dropWhile isBlank

/-- The characters up to the last one that is not blank. -/
def trimEnd (text : List Char) : List Char := (text.reverse.dropWhile isBlank).reverse

/-- A text without the blanks at both ends. -/
def trimChars (text : List Char) : List Char := trimEnd (trimStart text)

/-- A string without the blanks at both ends. -/
def trim (text : String) : String := String.ofList (trimChars text.toList)

/-- A character with ASCII capitals made small and every other character kept. -/
def lowerChar (c : Char) : Char := if 'A' ≤ c ∧ c ≤ 'Z' then Char.ofNat (c.toNat + 32) else c

/-- A string with its ASCII capitals made small. -/
def lowerAscii (text : String) : String := String.ofList (text.toList.map lowerChar)

/-- Whether one list of characters occurs inside another. -/
def occursIn (part : List Char) : List Char → Bool
  | [] => part.isEmpty
  | c :: rest => part.isPrefixOf (c :: rest) || occursIn part rest

/-- Whether one string occurs inside another. -/
def contains (text part : String) : Bool := occursIn part.toList text.toList

end Scratchpad.Text
