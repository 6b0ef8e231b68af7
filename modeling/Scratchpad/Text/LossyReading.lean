import Scratchpad.Text.Utf8

/-!
# Lossy readings of bytes

Bytes are read as text by going through them from the front: where a character is encoded it is
read, and everywhere else a replacement character stands for a stray part. A stray part is as much
of the bytes as could have begun a character, and a single byte if none of them could. There is no
choice in this: the relation says what a lossy reading is, and every byte list has exactly one.
-/
namespace Scratchpad.Text.Utf8

/-- Bytes with which the encoding of a character begins. -/
def Begins (part : List UInt8) : Prop := ∃ c, part <+: String.utf8EncodeChar c

/-- A part at the front of bytes, of which no character is encoded there, that is to be replaced:
the longest part that could have begun a character, or a byte that begins none. -/
structure IsStray (part rest : List UInt8) : Prop where
  nonempty : part ≠ []
  unread : ∀ c, ¬ String.utf8EncodeChar c <+: part ++ rest
  shape : Begins part ∨ part.length = 1
  longest : ∀ longer, longer <+: part ++ rest → Begins longer → longer.length ≤ part.length

/-- Bytes read as characters, with a replacement character for each stray part. -/
inductive LossyReading : List UInt8 → List Char → Prop where
  | done : LossyReading [] []
  | char (c : Char) {rest : List UInt8} {text : List Char} (read : LossyReading rest text) :
      LossyReading (String.utf8EncodeChar c ++ rest) (c :: text)
  | stray {part rest : List UInt8} {text : List Char} (replaced : IsStray part rest)
      (read : LossyReading rest text) : LossyReading (part ++ rest) (replacement :: text)

end Scratchpad.Text.Utf8
