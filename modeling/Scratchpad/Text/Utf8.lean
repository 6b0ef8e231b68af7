/-!
# Bytes as text

UTF-8 read one character at a time. A byte sequence that begins no character is reported by its
longest part that could have begun one, so that a lossy reading puts one replacement character in
the place of each such part.
-/
namespace Scratchpad.Text.Utf8

/-- What the front of a byte list holds. -/
inductive Front where
  /-- Nothing is left. -/
  | done
  /-- A whole character and the bytes after it. -/
  | char (value : Char) (rest : List UInt8)
  /-- Bytes that are the beginning of no character, and those after them. -/
  | bad (rest : List UInt8)

/-- The six payload bits of a continuation byte. -/
def payload (byte : UInt8) : Nat := byte.toNat % 64

/-- Whether a byte lies between two bounds, both included. -/
def within (low high : Nat) (byte : UInt8) : Bool := low ≤ byte.toNat && byte.toNat ≤ high

/-- Whether a byte continues a character. -/
def continues (byte : UInt8) : Bool := within 0x80 0xBF byte

/-- Whether the second byte of a three-byte character may follow its first: neither an overlong
form nor a surrogate results. -/
def secondOfThree (lead second : UInt8) : Bool :=
  if lead = 0xE0 then within 0xA0 0xBF second
  else if lead = 0xED then within 0x80 0x9F second
  else continues second

/-- Whether the second byte of a four-byte character may follow its first: the character is
neither overlong nor beyond U+10FFFF. -/
def secondOfFour (lead second : UInt8) : Bool :=
  if lead = 0xF0 then within 0x90 0xBF second
  else if lead = 0xF4 then within 0x80 0x8F second
  else continues second

/-- Read the front of a byte list. -/
def front : List UInt8 → Front
  | [] => .done
  | a :: rest =>
    if a < 0x80 then .char (Char.ofNat a.toNat) rest
    else if within 0xC2 0xDF a then
      match rest with
      | b :: rest' =>
        if continues b then .char (Char.ofNat ((a.toNat - 0xC0) * 64 + payload b)) rest'
        else .bad rest
      | [] => .bad rest
    else if within 0xE0 0xEF a then
      match rest with
      | b :: rest' =>
        if secondOfThree a b then
          match rest' with
          | c :: rest'' =>
            if continues c then
              .char (Char.ofNat (((a.toNat - 0xE0) * 64 + payload b) * 64 + payload c)) rest''
            else .bad rest'
          | [] => .bad rest'
        else .bad rest
      | [] => .bad rest
    else if within 0xF0 0xF4 a then
      match rest with
      | b :: rest' =>
        if secondOfFour a b then
          match rest' with
          | c :: rest'' =>
            if continues c then
              match rest'' with
              | d :: rest''' =>
                if continues d then
                  .char (Char.ofNat ((((a.toNat - 0xF0) * 64 + payload b) * 64 + payload c) * 64
                    + payload d)) rest'''
                else .bad rest''
              | [] => .bad rest''
            else .bad rest'
          | [] => .bad rest'
        else .bad rest
      | [] => .bad rest
    else .bad rest

/-- The replacement character. -/
def replacement : Char := Char.ofNat 0xFFFD

/-- The text so far, reversed, in front of the reading of at most `fuel` further parts. -/
def decodeFrom : Nat → List Char → List UInt8 → List Char
  | 0, text, _ => text.reverse
  | fuel + 1, text, bytes =>
    match front bytes with
    | .done => text.reverse
    | .char value rest => decodeFrom fuel (value :: text) rest
    | .bad rest => decodeFrom fuel (replacement :: text) rest

/-- The characters of a byte list, each part that is no character read as U+FFFD. Every part has
at least one byte, so there are no more parts than bytes. -/
def decodeLossy (bytes : List UInt8) : List Char := decodeFrom bytes.length [] bytes

/-- The characters of a byte list that is valid throughout, reading at most `fuel` of them. -/
def decodeStrictFrom : Nat → List Char → List UInt8 → Except Nat (List Char)
  | 0, text, _ => .ok text.reverse
  | fuel + 1, text, bytes =>
    match front bytes with
    | .done => .ok text.reverse
    | .char value rest => decodeStrictFrom fuel (value :: text) rest
    | .bad _ => .error bytes.length

/-- The characters of a byte list, or the number of bytes left from the first part that is no
character on. -/
def decode (bytes : List UInt8) : Except Nat (List Char) := decodeStrictFrom bytes.length [] bytes

/-- A byte list as a string, each part that is no character read as U+FFFD. -/
def lossyString (bytes : List UInt8) : String := String.ofList (decodeLossy bytes)

/-- A byte list as a string, if it is valid throughout. -/
def string? (bytes : List UInt8) : Option String :=
  match decode bytes with
  | .ok text => some (String.ofList text)
  | .error _ => none

/-- The bytes of a string. -/
def bytes (text : String) : List UInt8 := text.toUTF8.data.toList

end Scratchpad.Text.Utf8
