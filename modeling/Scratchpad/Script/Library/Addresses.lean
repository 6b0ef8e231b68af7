import Scratchpad.Script.Library.Arguments
import Scratchpad.Text.Utf8

/-!
# Escapes in addresses

Writing and reading characters as escaped bytes, and the older escapes of whole units.
-/
namespace Scratchpad.Script.Address

open Scratchpad.Text (Units)

/-- Whether a unit is a letter or a digit of ASCII. -/
def isAlphanumeric (unit : UInt16) : Bool :=
  (48 ≤ unit && unit ≤ 57) || (65 ≤ unit && unit ≤ 90) || (97 ≤ unit && unit ≤ 122)

/-- Whether a unit is one of some characters. -/
def isOneOf (chars : String) (unit : UInt16) : Bool :=
  chars.toList.any fun c => c.toNat = unit.toNat

/-- Whether a unit stays as it is in a part of an address. -/
def staysInPart (unit : UInt16) : Bool := isAlphanumeric unit || isOneOf "-_.!~*'()" unit

/-- Whether a unit has a meaning in a whole address. -/
def isReserved (unit : UInt16) : Bool := isOneOf ";/?:@&=+$,#" unit

/-- Whether a unit stays as it is in a whole address. -/
def staysInWhole (unit : UInt16) : Bool := staysInPart unit || isReserved unit

/-- The unit of a digit of base 16 in capitals. -/
def hexDigit (value : Nat) : UInt16 := (if value < 10 then 48 + value else 55 + value).toUInt16

/-- A byte as an escape. -/
def escapeByte (byte : Nat) : Array UInt16 := #[37, hexDigit (byte / 16), hexDigit (byte % 16)]

/-- The bytes of a code point. -/
def bytesOf (code : Nat) : List Nat :=
  if code < 0x80 then [code]
  else if code < 0x800 then [0xC0 + code / 64, 0x80 + code % 64]
  else if code < 0x10000 then [0xE0 + code / 4096, 0x80 + code / 64 % 64, 0x80 + code % 64]
  else [0xF0 + code / 262144, 0x80 + code / 4096 % 64, 0x80 + code / 64 % 64, 0x80 + code % 64]

/-- The units of code points with the bytes of those that do not stay as escapes. -/
def encodeCodes (stays : UInt16 → Bool) :
    List Nat → Array UInt16 → Except UriFault (Array UInt16)
  | [], found => .ok found
  | code :: rest, found =>
    if code < 0x10000 && stays code.toUInt16 then encodeCodes stays rest (found.push code.toUInt16)
    else if Units.isSurrogate code then
      .error (if code < 0xDC00 then .expectingPair else .character)
    else
      encodeCodes stays rest
        ((bytesOf code).foldl (fun found byte => found ++ escapeByte byte) found)

/-- A text with escapes for the characters that do not stay. -/
def encode (stays : UInt16 → Bool) (text : Units) : Except UriFault Units :=
  (encodeCodes stays text.codePoints #[]).map fun codes => ⟨codes⟩

/-- The byte that an escape at an index stands for. -/
def byteAt (text : Units) (index : Nat) : Except UriFault Nat :=
  if text.unitAt index ≠ 37 || index ≥ text.size then .error .expectingEscape
  else
    match Decimal.digitIn? 16 (text.unitAt (index + 1)).toNat,
      Decimal.digitIn? 16 (text.unitAt (index + 2)).toNat with
    | some high, some low =>
      if index + 2 < text.size then .ok (high * 16 + low) else .error .expectingDigit
    | _, _ => .error .expectingDigit

/-- The code point of further bytes at an index, behind what those before gave. -/
def followersAt (text : Units) : Nat → Nat → Nat → Except UriFault Nat
  | 0, _, code => .ok code
  | count + 1, index, code => do
    let byte ← byteAt text index
    if byte / 64 = 2 then followersAt text count (index + 3) (code * 64 + byte % 64)
    else throw .malformed

/-- The number of further bytes and the first bits that a byte announces. -/
def announced? (byte : Nat) : Option (Nat × Nat × Nat) :=
  if 0xC0 ≤ byte ∧ byte ≤ 0xDF then some (1, byte % 32, 0x80)
  else if 0xE0 ≤ byte ∧ byte ≤ 0xEF then some (2, byte % 16, 0x800)
  else if 0xF0 ≤ byte ∧ byte ≤ 0xF7 then some (3, byte % 8, 0x10000)
  else none

/-- The text from an index on with its escapes read, at most `fuel` characters of it. -/
def decodeFrom (keeps : UInt16 → Bool) (text : Units) :
    Nat → Nat → Array UInt16 → Except UriFault Units
  | 0, _, found => .ok ⟨found⟩
  | fuel + 1, index, found => do
    if index ≥ text.size then return ⟨found⟩
    else if text.unitAt index ≠ 37 then
      decodeFrom keeps text fuel (index + 1) (found.push (text.unitAt index))
    else
      let byte ← byteAt text index
      if byte < 0x80 then
        if keeps byte.toUInt16 then
          decodeFrom keeps text fuel (index + 3)
            (found ++ (text.slice index (index + 3)).codes)
        else decodeFrom keeps text fuel (index + 3) (found.push byte.toUInt16)
      else
        match announced? byte with
        | none => throw .malformed
        | some (count, bits, least) =>
          let code ← followersAt text count (index + 3) bits
          if code < least || code > 0x10FFFF || Units.isSurrogate code then throw .malformed
          else decodeFrom keeps text fuel (index + 3 * (count + 1)) (Units.pushCode found code)

/-- A text with its escapes read, except those of some units. -/
def decode (keeps : UInt16 → Bool) (text : Units) : Except UriFault Units :=
  decodeFrom keeps text (text.size + 1) 0 #[]

/-- A text with the older escapes for units that do not stay. -/
def escapeUnits (text : Units) : Units :=
  ⟨text.codes.foldl (fun found unit =>
    if isAlphanumeric unit || isOneOf "@*_+-./" unit then found.push unit
    else if unit < 256 then found ++ escapeByte unit.toNat
    else
      let byte (value : Nat) : Array UInt16 := #[hexDigit (value / 16), hexDigit (value % 16)]
      found ++ #[37, 117] ++ byte (unit.toNat / 256) ++ byte (unit.toNat % 256)) #[]⟩

/-- The value of digits of base 16 at an index. -/
def hexAt? (text : Units) : Nat → Nat → Nat → Option Nat
  | 0, _, value => some value
  | count + 1, index, value =>
    if index < text.size then
      match Decimal.digitIn? 16 (text.unitAt index).toNat with
      | some digit => hexAt? text count (index + 1) (value * 16 + digit)
      | none => none
    else none

/-- The text from an index on with the older escapes read, at most `fuel` units of it. -/
def unescapeFrom (text : Units) : Nat → Nat → Array UInt16 → Units
  | 0, _, found => ⟨found⟩
  | fuel + 1, index, found =>
    if index ≥ text.size then ⟨found⟩
    else
      let unit := text.unitAt index
      let long := if text.unitAt (index + 1) = 117 then hexAt? text 4 (index + 2) 0 else none
      match unit == 37, long, hexAt? text 2 (index + 1) 0 with
      | true, some value, _ => unescapeFrom text fuel (index + 6) (found.push value.toUInt16)
      | true, none, some value => unescapeFrom text fuel (index + 3) (found.push value.toUInt16)
      | _, _, _ => unescapeFrom text fuel (index + 1) (found.push unit)

/-- A text with the older escapes read. -/
def unescapeUnits (text : Units) : Units := unescapeFrom text (text.size + 1) 0 #[]

/-- Encode a value. -/
def run [Machine] (stays : UInt16 → Bool) (value : Value) : Eval Value := do
  match encode stays (← toText value) with
  | .ok text => makeText text
  | .error fault => raise (.uri fault)

/-- Decode a value. -/
def runDecode [Machine] (keeps : UInt16 → Bool) (value : Value) : Eval Value := do
  match decode keeps (← toText value) with
  | .ok text => makeText text
  | .error fault => raise (.uri fault)

end Scratchpad.Script.Address
