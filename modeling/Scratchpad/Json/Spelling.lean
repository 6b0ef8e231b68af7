import Scratchpad.Json.Reader

/-!
# Spellings of JSON texts

The forms in which an object of strings may be written: white space around every token, and each
character of a string as itself, by a letter after a backslash, or by the codes of its 16-bit units.
The format says more than any one writer uses of it, so that what is shown of all spellings holds of
every peer.
-/
namespace Scratchpad.Json

/-- Bytes that mean nothing between tokens: spaces, tabs, line feeds and carriage returns. -/
def Spaces (bytes : List UInt8) : Prop := ∀ byte ∈ bytes, byte ∈ ([32, 9, 10, 13] : List UInt8)

/-- A hexadecimal digit of a value, in either case. -/
inductive HexDigit : Nat → UInt8 → Prop where
  | decimal (value : Nat) : value < 10 → HexDigit value (UInt8.ofNat (48 + value))
  | small (value : Nat) : 10 ≤ value → value < 16 → HexDigit value (UInt8.ofNat (87 + value))
  | capital (value : Nat) : 10 ≤ value → value < 16 → HexDigit value (UInt8.ofNat (55 + value))

/-- The four digits of a 16-bit unit. -/
inductive UnitDigits : Nat → List UInt8 → Prop where
  | four {a b c d : Nat} {first second third fourth : UInt8} : HexDigit a first →
      HexDigit b second → HexDigit c third → HexDigit d fourth →
      UnitDigits (((a * 16 + b) * 16 + c) * 16 + d) [first, second, third, fourth]

/-- The characters that have a letter of their own, each with its letter. -/
def letters : List (Char × Char) :=
  [('"', '"'), ('\\', '\\'), ('/', '/'), (Char.ofNat 8, 'b'), (Char.ofNat 12, 'f'), ('\n', 'n'),
    ('\r', 'r'), ('\t', 't')]

/-- What stands for a character after a backslash. -/
inductive EscapesChar : Char → List UInt8 → Prop where
  | letter {c letter : Char} : (c, letter) ∈ letters → EscapesChar c [code letter]
  /-- A character of one unit by the code of that unit. -/
  | unit {c : Char} {digits : List UInt8} : c.toNat < 0x10000 → UnitDigits c.toNat digits →
      EscapesChar c (code 'u' :: digits)
  /-- Any other character by the codes of a pair of surrogates. -/
  | pair {c : Char} {lead trail : List UInt8} : 0x10000 ≤ c.toNat →
      UnitDigits (0xD800 + (c.toNat - 0x10000) / 0x400) lead →
      UnitDigits (0xDC00 + (c.toNat - 0x10000) % 0x400) trail →
      EscapesChar c (code 'u' :: lead ++ code '\\' :: code 'u' :: trail)

/-- Whether a character may stand for itself in a string. -/
def isPlainChar (c : Char) : Bool := 32 ≤ c.toNat && c ≠ '"' && c ≠ '\\'

/-- The characters of a string, between its quotes. -/
inductive SpellsChars : List Char → List UInt8 → Prop where
  | nil : SpellsChars [] []
  /-- A character as it stands, in UTF-8. -/
  | raw {c : Char} {chars : List Char} {rest : List UInt8} : isPlainChar c = true →
      SpellsChars chars rest → SpellsChars (c :: chars) (String.utf8EncodeChar c ++ rest)
  | escaped {c : Char} {chars : List Char} {bytes rest : List UInt8} : EscapesChar c bytes →
      SpellsChars chars rest → SpellsChars (c :: chars) (code '\\' :: (bytes ++ rest))

/-- A member whose value is a string, with the white space around its tokens. -/
inductive SpellsMember : String × String → List UInt8 → Prop where
  | spaced {name value : String} {before named behind ahead valued after : List UInt8} :
      Spaces before → SpellsChars name.toList named → Spaces behind → Spaces ahead →
      SpellsChars value.toList valued → Spaces after →
      SpellsMember (name, value)
        (before ++ code '"' :: (named ++ code '"' :: (behind ++ code ':' ::
          (ahead ++ code '"' :: (valued ++ code '"' :: after)))))

/-- One member or more, with a comma between each two. -/
inductive SpellsMembers : List (String × String) → List UInt8 → Prop where
  | one {member : String × String} {bytes : List UInt8} : SpellsMember member bytes →
      SpellsMembers [member] bytes
  | more {member : String × String} {members : List (String × String)} {bytes rest : List UInt8} :
      SpellsMember member bytes → SpellsMembers members rest →
      SpellsMembers (member :: members) (bytes ++ code ',' :: rest)

/-- A text that is an object whose members have strings as their values. -/
inductive SpellsObject : List (String × String) → List UInt8 → Prop where
  | empty {before inner after : List UInt8} : Spaces before → Spaces inner → Spaces after →
      SpellsObject [] (before ++ code '\x7b' :: (inner ++ code '\x7d' :: after))
  | full {members : List (String × String)} {before inner after : List UInt8} : Spaces before →
      SpellsMembers members inner → Spaces after →
      SpellsObject members (before ++ code '\x7b' :: (inner ++ code '\x7d' :: after))

end Scratchpad.Json
