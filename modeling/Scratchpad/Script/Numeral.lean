import Scratchpad.Decimal.Reading
import Scratchpad.Text.Units

/-!
# Numbers in texts

The number that a whole text spells, the number at the beginning of a text, and the big integer that
a text spells. Blanks around a number do not count.
-/
namespace Scratchpad.Script.Numeral

open Scratchpad.Text (Units)

/-- The units between two indices. -/
def codesBetween (text : Units) (start stop : Nat) : List Nat :=
  ((text.slice start stop).codes.map (·.toNat)).toList

/-- Whether a unit is a digit of a base. -/
def isDigitOf (base : Nat) (unit : UInt16) : Bool := (Decimal.digitIn? base unit.toNat).isSome

/-- The index behind the digits of a base that begin at an index. -/
def digitsEnd (text : Units) (base index : Nat) : Nat := text.skipWhile (isDigitOf base) index

/-- Whether a plain text stands at an index. -/
def standsAt (text : Units) (part : String) (index : Nat) : Bool :=
  text.occursAt (Units.ofString part) index

/-- The exponent that begins at an index and the index behind it. -/
def exponentAt (text : Units) (index : Nat) : Int × Nat :=
  let unit := text.unitAt index
  if unit = 101 || unit = 69 then
    let sign := text.unitAt (index + 1)
    let start := if sign = 43 || sign = 45 then index + 2 else index + 1
    let stop := digitsEnd text 10 start
    if stop = start then (0, index)
    else
      let value := Decimal.ofBase 10 (codesBetween text start stop)
      (if sign = 45 then -(value : Int) else value, stop)
  else (0, index)

/-- The decimal number without a sign that begins at an index, and the index behind it. -/
def unsignedAt? (text : Units) (start : Nat) : Option (Float × Nat) :=
  if standsAt text "Infinity" start then some (Decimal.infinity, start + 8)
  else
    let wholeEnd := digitsEnd text 10 start
    let hasPoint := text.unitAt wholeEnd = 46 && wholeEnd < text.size
    let fractionEnd := if hasPoint then digitsEnd text 10 (wholeEnd + 1) else wholeEnd
    let fraction := if hasPoint then fractionEnd - (wholeEnd + 1) else 0
    if wholeEnd - start + fraction = 0 then none
    else
      let digits := codesBetween text start wholeEnd ++
        codesBetween text (fractionEnd - fraction) fractionEnd
      let (power, stop) := exponentAt text fractionEnd
      some (Decimal.ofDigits (Decimal.ofBase 10 digits) (power - fraction), stop)

/-- The decimal number that begins at an index, and the index behind it. -/
def decimalAt? (text : Units) (start : Nat) : Option (Float × Nat) :=
  let sign := text.unitAt start
  if sign = 45 then (unsignedAt? text (start + 1)).map fun (value, stop) => (-value, stop)
  else if sign = 43 then unsignedAt? text (start + 1)
  else unsignedAt? text start

/-- The base that a letter after a zero names. -/
def baseOf? (unit : UInt16) : Option Nat :=
  if unit = 120 || unit = 88 then some 16
  else if unit = 111 || unit = 79 then some 8
  else if unit = 98 || unit = 66 then some 2
  else none

/-- The base that a text names at an index. -/
def baseAt? (text : Units) (index : Nat) : Option Nat :=
  if text.unitAt index = 48 then baseOf? (text.unitAt (index + 1)) else none

/-- The natural number of a base that stands between an index and the end of a text. -/
def wholeOf? (text : Units) (base start : Nat) : Option Nat :=
  if digitsEnd text base start = text.size && start < text.size then
    some (Decimal.ofBase base (codesBetween text start text.size))
  else none

/-- The number that a text spells. -/
def toNumber (text : Units) : Float :=
  let text := text.trim
  if text.isEmpty then 0.0
  else
    match baseAt? text 0 with
    | some base =>
      match wholeOf? text base 2 with
      | some value => Decimal.ofNat value
      | none => Decimal.nan
    | none =>
      match decimalAt? text 0 with
      | some (value, stop) => if stop = text.size then value else Decimal.nan
      | none => Decimal.nan

/-- The decimal number at the beginning of a text. -/
def parseFloat (text : Units) : Float :=
  match decimalAt? text.trimStart 0 with
  | some (value, _) => value
  | none => Decimal.nan

/-- The whole number of a base at the beginning of a text; the base is found if it is zero. -/
def parseInt (text : Units) (base : Int) : Float :=
  let text := text.trimStart
  let sign := text.unitAt 0
  let start := if sign = 43 || sign = 45 then 1 else 0
  let isHex := (text.unitAt start = 48) && baseOf? (text.unitAt (start + 1)) = some 16
  let (base, start) :=
    if base = 0 then if isHex then (16, start + 2) else (10, start)
    else if base = 16 && isHex then (16, start + 2) else (base, start)
  if base < 2 || base > 36 then Decimal.nan
  else
    let stop := digitsEnd text base.toNat start
    if stop = start then Decimal.nan
    else
      let value := Decimal.ofNat (Decimal.ofBase base.toNat (codesBetween text start stop))
      if sign = 45 then -value else value

/-- The big integer that a text spells. -/
def toBigint? (text : Units) : Option Int :=
  let text := text.trim
  if text.isEmpty then some 0
  else
    match baseAt? text 0 with
    | some base => (wholeOf? text base 2).map Int.ofNat
    | none =>
      let sign := text.unitAt 0
      let start := if sign = 43 || sign = 45 then 1 else 0
      (wholeOf? text 10 start).map fun value => if sign = 45 then -(value : Int) else value

end Scratchpad.Script.Numeral
