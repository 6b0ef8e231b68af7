/-!
# Strings of code units

A script string is a sequence of 16-bit code units. Two units that form a surrogate pair stand for
one character, but a unit of a pair may also stand alone; such a string has no text. The order of
strings is that of their units.
-/
namespace Scratchpad.Text

/-- A string of 16-bit code units. -/
structure Units where
  codes : Array UInt16
deriving DecidableEq, Hashable, Inhabited

namespace Units

/-- The string without units. -/
def empty : Units := ⟨#[]⟩

/-- The number of units. -/
def size (units : Units) : Nat := units.codes.size

/-- Whether there are no units. -/
def isEmpty (units : Units) : Bool := units.codes.isEmpty

/-- Whether a unit is the first of a surrogate pair. -/
def isLead (unit : UInt16) : Bool := 0xD800 ≤ unit && unit ≤ 0xDBFF

/-- Whether a unit is the second of a surrogate pair. -/
def isTrail (unit : UInt16) : Bool := 0xDC00 ≤ unit && unit ≤ 0xDFFF

/-- The code point of a surrogate pair. -/
def joinPair (lead trail : UInt16) : Nat :=
  0x10000 + (lead.toNat - 0xD800) * 0x400 + (trail.toNat - 0xDC00)

/-- Units with those of a code point at their end. -/
def pushCode (codes : Array UInt16) (code : Nat) : Array UInt16 :=
  if code < 0x10000 then codes.push code.toUInt16
  else
    let offset := code - 0x10000
    (codes.push (0xD800 + offset / 0x400).toUInt16).push (0xDC00 + offset % 0x400).toUInt16

/-- The units of characters. -/
def ofChars (chars : List Char) : Units :=
  ⟨chars.foldl (fun codes c => pushCode codes c.toNat) #[]⟩

/-- The units of a string. -/
def ofString (text : String) : Units := ofChars text.toList

instance : Coe String Units := ⟨ofString⟩

/-- One string after another. -/
def append (first second : Units) : Units := ⟨first.codes ++ second.codes⟩

instance : Append Units := ⟨append⟩

/-- The units from one index up to another. -/
def slice (units : Units) (start stop : Nat) : Units := ⟨units.codes.extract start stop⟩

/-- The unit at an index, zero beyond the end. -/
def unitAt (units : Units) (index : Nat) : UInt16 := units.codes[index]?.getD 0

/-- The code point that begins at an index and the number of its units; a unit that stands alone is
a code point of its own. -/
def codeAt (units : Units) (index : Nat) : Nat × Nat :=
  let first := units.unitAt index
  if isLead first && index + 1 < units.size && isTrail (units.unitAt (index + 1)) then
    (joinPair first (units.unitAt (index + 1)), 2)
  else (first.toNat, 1)

/-- The code points from an index on, at most `fuel` of them, in front of those found before. -/
def codePointsFrom (units : Units) : Nat → Nat → List Nat → List Nat
  | 0, _, found => found.reverse
  | fuel + 1, index, found =>
    if index < units.size then
      let (code, width) := units.codeAt index
      codePointsFrom units fuel (index + width) (code :: found)
    else found.reverse

/-- The code points of a string, units that stand alone included. -/
def codePoints (units : Units) : List Nat := units.codePointsFrom units.size 0 []

/-- The number of bytes of a code point in UTF-8. -/
def codeWidth (code : Nat) : Nat :=
  if code < 0x80 then 1 else if code < 0x800 then 2 else if code < 0x10000 then 3 else 4

/-- Whether a code point belongs to no character. -/
def isSurrogate (code : Nat) : Bool := 0xD800 ≤ code && code ≤ 0xDFFF

/-- The characters of code points, or the number of bytes before the first that is none. -/
def decodeFrom (bytes : Nat) (found : List Char) : List Nat → Except Nat (List Char)
  | [] => .ok found.reverse
  | code :: rest =>
    if isSurrogate code then .error bytes
    else decodeFrom (bytes + codeWidth code) (Char.ofNat code :: found) rest

/-- The characters of a string, or the number of bytes before its first unit without a partner. -/
def decode (units : Units) : Except Nat (List Char) := decodeFrom 0 [] units.codePoints

/-- The text of a string, a unit without a partner read as the replacement character. -/
def lossy (units : Units) : String :=
  String.ofList (units.codePoints.map fun code =>
    if isSurrogate code then Char.ofNat 0xFFFD else Char.ofNat code)

/-- Whether one string comes before another, from an index on. -/
def lessFrom (first second : Units) : Nat → Nat → Bool
  | 0, _ => false
  | fuel + 1, index =>
    if index ≥ second.size then false
    else if index ≥ first.size then true
    else
      let a := first.unitAt index
      let b := second.unitAt index
      if a = b then lessFrom first second fuel (index + 1) else a < b

/-- Whether one string comes before another in the order of their units. -/
def less (first second : Units) : Bool := lessFrom first second (second.size + 1) 0

/-- Whether a string occurs in another at an index. -/
def matchesFrom (units part : Units) (index : Nat) : Nat → Bool
  | 0 => true
  | left + 1 =>
    let offset := part.size - (left + 1)
    units.unitAt (index + offset) = part.unitAt offset && matchesFrom units part index left

/-- Whether a string occurs in another at an index. -/
def occursAt (units part : Units) (index : Nat) : Bool :=
  index + part.size ≤ units.size && matchesFrom units part index part.size

/-- The first index from `start` on, among the next `fuel`, at which a string occurs. -/
def findFrom (units part : Units) : Nat → Nat → Option Nat
  | 0, _ => none
  | fuel + 1, start =>
    if start + part.size > units.size then none
    else if units.occursAt part start then some start
    else findFrom units part fuel (start + 1)

/-- The first index from `start` on at which a string occurs. -/
def find? (units part : Units) (start : Nat) : Option Nat :=
  findFrom units part (units.size + 1 - start) start

/-- The last index up to `start` at which a string occurs. -/
def findLast? (units part : Units) : Nat → Option Nat
  | 0 => if units.occursAt part 0 then some 0 else none
  | start + 1 =>
    if units.occursAt part (start + 1) then some (start + 1) else findLast? units part start

/-- The first index from `index` on, among the next `fuel`, whose unit has no property. -/
def skipFrom (units : Units) (property : UInt16 → Bool) : Nat → Nat → Nat
  | 0, index => index
  | fuel + 1, index =>
    if index < units.size && property (units.unitAt index) then
      skipFrom units property fuel (index + 1)
    else index

/-- The first index from `index` on whose unit does not have a property. -/
def skipWhile (units : Units) (property : UInt16 → Bool) (index : Nat) : Nat :=
  units.skipFrom property (units.size - index) index

/-- Whether a unit is white space or ends a line of a script. -/
def isSpace (unit : UInt16) : Bool :=
  (9 ≤ unit && unit ≤ 13) || unit = 32 || unit = 0xA0 || unit = 0x1680 ||
    (0x2000 ≤ unit && unit ≤ 0x200A) || unit = 0x2028 || unit = 0x2029 || unit = 0x202F ||
    unit = 0x205F || unit = 0x3000 || unit = 0xFEFF

/-- The end of a string without the white space at it. -/
def trimmedEnd (units : Units) : Nat → Nat
  | 0 => 0
  | stop + 1 => if isSpace (units.unitAt stop) then trimmedEnd units stop else stop + 1

/-- A string without the white space in front. -/
def trimStart (units : Units) : Units :=
  units.slice (units.skipWhile isSpace 0) units.size

/-- A string without the white space at its end. -/
def trimEnd (units : Units) : Units := units.slice 0 (units.trimmedEnd units.size)

/-- A string without the white space at both ends. -/
def trim (units : Units) : Units := units.trimEnd.trimStart

/-- Units followed by a string a number of times in a row. -/
def repeatOnto (units : Units) : Nat → Array UInt16 → Array UInt16
  | 0, codes => codes
  | count + 1, codes => repeatOnto units count (codes ++ units.codes)

/-- A string a number of times in a row. -/
def repeated (units : Units) (count : Nat) : Units := ⟨units.repeatOnto count #[]⟩

/-- A string of one repeated unit. -/
def replicate (count : Nat) (unit : UInt16) : Units := ⟨Array.replicate count unit⟩

/-- Strings with a separator between each two. -/
def join (separator : Units) : List Units → Units
  | [] => empty
  | first :: rest =>
    ⟨rest.foldl (fun codes next => codes ++ separator.codes ++ next.codes) first.codes⟩

/-- The value of a decimal digit, if a unit is one. -/
def digit? (unit : UInt16) : Option Nat :=
  if 48 ≤ unit && unit ≤ 57 then some (unit.toNat - 48) else none

/-- The number that decimal units from an index on spell, after `value`. -/
def naturalFrom (units : Units) : Nat → Nat → Nat → Option Nat
  | 0, _, value => some value
  | fuel + 1, index, value =>
    if index < units.size then
      match digit? (units.unitAt index) with
      | some digit => naturalFrom units fuel (index + 1) (value * 10 + digit)
      | none => none
    else some value

/-- The number that a string spells in plain decimal form, without a zero in front. -/
def natural? (units : Units) : Option Nat :=
  if units.size = 0 || units.size > 16 then none
  else if units.unitAt 0 = 48 then if units.size = 1 then some 0 else none
  else naturalFrom units units.size 0 0

/-- The largest index of an array. -/
def maxIndex : Nat := 4294967294

/-- The array index that a string spells. -/
def index? (units : Units) : Option Nat :=
  match units.natural? with
  | some value => if value ≤ maxIndex then some value else none
  | none => none

/-- The plain decimal form of a number. -/
def ofNat (value : Nat) : Units := ofString (toString value)

end Units

end Scratchpad.Text
