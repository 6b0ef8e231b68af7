import Scratchpad.Text.Ranges
import Scratchpad.Text.Units

/-!
# Capitals and small letters

The full case mappings of Unicode. Mappings that shift a row of code points by one distance are
kept as one run, and the capitals that are more than one character as a list of their own. A small
sigma at the end of a word has a form of its own.
-/
namespace Scratchpad.Text

/-- A row of code points, every one or every second, that a mapping shifts by one distance. -/
structure CaseRun where
  first : Nat
  last : Nat
  stride : Nat
  distance : Int
deriving Inhabited

/-- The runs of a mapping, each written as the gap from the run before, the number of code points,
the stride and the distance with its sign in the lowest bit. -/
def caseRunsFrom (previous : Nat) : List Nat → List CaseRun
  | gap :: count :: stride :: distance :: rest =>
    let first := previous + gap
    { first, stride
      last := first + (count - 1) * stride
      distance := if distance % 2 = 0 then (distance / 2 : Nat) else -((distance + 1) / 2 : Nat) }
      :: caseRunsFrom first rest
  | _ => []

/-- The runs of capitals beyond ASCII. -/
def upperRuns : List String :=
  ["51 1 1 15a 17 n 1 1r o 7 1 1r 7 1 1 6q 2 o 2 1 1c 1 1 cv 2 3 2 1 7 8 2 1 h n 2 1 1b 3 2 1",
   "5 1 1 gn 1 1 1 au 3 2 2 1 5 1 1 1 4 1 1 1 6 1 1 1 3 1 1 5e 4 1 1 1 1 1 1 92 4 1 1 78 3 3 2",
   "1 7 1 1 1 5 1 1 1 3 1 1 1 4 2 2 1 5 1 1 1 4 1 1 1 2 1 1 34 6 1 1 1 1 1 1 3 2 1 1 1 1 1 1 3",
   "2 1 1 1 1 1 1 3 2 8 2 1 f 1 1 4d 2 9 2 1 j 1 1 1 1 1 1 3 2 1 1 1 4 k 2 1 16 9 2 1 p 1 1 1",
   "3 2 1 gou 3 1 1 1 5 5 2 1 9 1 1 gn2 1 1 1 gmw 1 1 1 gn0 1 1 1 bn 1 1 1 bf 2 2 1 bd 3 1 1",
   "b7 2 1 1 b9 1 1 1 1tb2 4 1 1 bd 1 1 1 1tau 2 1 1 bh 2 1 1 1t8w 1 1 1 1tag 2 1 1 bl 1 1 1",
   "bp 1 1 1 1tag 1 1 1 gku 1 1 1 1taa 3 1 1 bp 2 1 1 gl6 1 1 1 bt 3 1 1 bv 8 1 1 gjy 3 1 1 c3",
   "2 1 1 1tae 1 1 1 c3 4 1 1 1t90 1 1 1 c3 1 1 1 3t 1 2 1 c1 2 1 1 3x 6 1 1 c5 b 1 1 1t7u 1 1",
   "1 1t7o 4n 1 1 4o 18 2 2 1 6 1 1 1 4 3 1 78 1d 1 1 23 1 3 1 21 4 h 1 1r h 1 1 1p 1 9 1 1r 9",
   "1 1 3j 1 2 1 3h 3 1 1 3f 1 1 1 35 4 1 1 2l 1 1 1 2z 1 1 1 f 2 c 2 1 n 1 1 4r 1 1 1 4f 1 1",
   "1 e 1 1 1 6f 2 1 1 5b 3 1 1 1 3 1 1 1 1h w 1 1r w g 1 4f h h 2 1 16 r 2 1 1j 7 2 1 d 1 1 t",
   "2 1c 2 1 40 12 1 2n 29b 17 1 4n4 19 3 1 4n4 l7 6 1 f 1oo 1 1 9nf 1 1 1 9nd 1 1 1 9mv 1 2 1",
   "9mr 2 1 1 9mt 1 1 1 9mf 1 1 1 9jd 1 1 1 1if8 6p 1 1 1iiw 4 1 1 5vw h 1 1 1ils 37 23 2 1 4a",
   "1 1 39 6 1c 2 1 2n 8 1 g g 6 1 g g 8 1 g g 8 1 g g 6 1 g h 4 2 g f 8 1 g g 2 1 44 2 4 1 4s",
   "4 2 1 5k 2 2 1 74 2 2 1 68 2 2 1 70 1g 2 1 g e 1 1 b49 i 2 1 g g 2 1 g 5 1 1 e a1 1 1 1j y",
   "g 1 v k 1 1 1 ng q 1 1f 1gg 1c 1 2n 1d 1 1 1 4 1 1 gnp 1 1 1 gnj 2 3 2 1 b 1 1 1 3 1 1 1 b",
   "1e 2 1 2z 2 2 1 7 1 1 1 d 12 1 b7j 13 1 1 b7j 6 1 1 b7j nx0 n 2 1 1s e 2 1 4i 7 2 1 g v 2",
   "1 1z 2 2 1 5 5 2 1 d 1 1 1 5 2 2 1 3 1 1 2o 3 a 2 1 u 8 2 1 j 2 2 1 9 1 1 1 6 2 2 1 v 1 1",
   "1 nx 1 1 1fj t 28 1 1nz3 gk1 q 1 1r yv 14 1 27 4w 10 1 27 5b b 1 25 c f 1 25 g 7 1 25 8 2",
   "1 25 1dx 1f 1 3j 2dc w 1 1r gww w 1 1r o8y y 1 1v"]

/-- The runs of small letters beyond ASCII. -/
def lowerRuns : List String :=
  ["5c n 1 1s o 7 1 1s 14 o 2 2 1e 3 2 2 7 8 2 2 h n 2 2 1a 1 1 6p 1 3 2 2 8 1 1 bo 1 2 2 2 4",
   "1 1 bg 1 1 1 2 2 2 1 be 2 1 1 2 3 1 1 4e 1 1 1 b8 1 1 1 ba 1 1 1 2 2 1 1 be 1 1 1 bi 2 1 1",
   "bq 1 1 1 bm 1 1 1 2 4 1 1 bq 1 1 1 bu 2 1 1 bw 1 3 2 2 6 1 1 c4 1 1 1 2 2 1 1 c4 3 1 1 2 2",
   "1 1 c4 1 1 1 2 2 2 1 c2 2 2 2 2 4 1 1 c6 1 1 1 2 4 1 1 2 8 1 1 4 1 1 1 2 2 1 1 4 1 1 1 2 2",
   "1 1 4 1 9 2 2 j 9 2 2 j 1 1 4 1 2 2 2 4 1 1 5d 1 1 1 33 1 k 2 2 14 1 1 77 2 9 2 2 o 1 1",
   "gnq 1 1 1 2 2 1 1 91 1 1 1 gnk 3 1 1 2 2 1 1 at 1 1 1 3u 1 1 1 3y 1 5 2 2 8a 2 2 2 6 1 1 2",
   "9 1 1 6g 7 1 1 24 2 3 1 22 4 1 1 3k 2 2 1 3i 3 h 1 1s i 9 1 1s 18 1 1 g 9 c 2 2 s 1 1 3b 3",
   "1 1 2 2 1 1 d 1 1 1 2 3 3 1 77 3 g 1 4g g w 1 1s 28 h 2 2 16 r 2 2 1i 1 1 u 1 7 2 2 f 1c 2",
   "2 2p 12 1 2o 29b 12 1 b7k 13 1 1 b7k 6 1 1 b7k k3 28 1 1nz4 28 6 1 g 1pc 17 1 4n3 19 3 1",
   "4n3 8z 23 2 2 4e 1 1 br1 2 1c 2 2 2w 8 1 f g 6 1 f g 8 1 f g 8 1 f g 6 1 f h 4 2 f f 8 1 f",
   "w 8 1 f g 8 1 f g 8 1 f g 2 1 f 2 2 1 43 2 1 1 h c 4 1 4r 4 1 1 h c 2 1 f 2 2 1 5j e 2 1 f",
   "2 2 1 67 2 1 1 d c 2 1 73 2 2 1 6z 2 1 1 h 8a 1 1 bll 4 1 1 cxp 1 1 1 cqz 7 1 1 1k 1a g 1",
   "w z 1 1 2 mr q 1 1g 1fu 1c 1 2o 2o 1 1 2 2 1 1 gkt 1 1 1 5vv 1 1 1 gjx 3 3 2 2 6 1 1 gmv 1",
   "1 1 gl5 1 1 1 gn1 1 1 1 gmz 2 1 1 2 3 1 1 2 9 2 1 got 2 1e 2 2 2z 2 2 2 7 1 1 2 nym n 2 2",
   "1s e 2 2 4i 7 2 2 g v 2 2 1z 2 2 2 4 1 1 1iiv 1 5 2 2 d 1 1 2 2 1 1 1t8v 3 2 2 2 6 a 2 2 k",
   "1 1 1taf 1 1 1 1tb1 1 1 1 1tat 1 1 1 1ta9 1 1 1 1taf 2 1 1 1t7n 1 1 1 1t8z 1 1 1 1t7t 1 1",
   "1 1fk 1 8 2 2 g 1 1 2n 1 1 1 1tad 1 1 1 1ilr 1 2 2 2 9 1 1 2 6 2 2 2 v 1 1 2 h7w q 1 1s yn",
   "14 1 28 4w 10 1 28 5c b 1 26 c f 1 26 g 7 1 26 8 2 1 26 1d8 1f 1 3k 2e8 w 1 1s gww w 1 1s",
   "o8w y 1 1w"]

/-- The letters whose capital is two or three characters, with these. -/
def upperExpansions : List String :=
  ["67 2b 2b 0 95 jg 26 0 ds 22 lo 0 pc pl lk ld q8 px lk ld 13b 111 11u 0 61i 20 mp 0 61j 2c",
   "lk 0 61k 2f lm 0 61l 2h lm 0 61m 1t ji 0 66o px lv 0 66q px lv lc 66s px lv ld 66u px lv",
   "n6 680 64o pl 0 681 64p pl 0 682 64q pl 0 683 64r pl 0 684 64s pl 0 685 64t pl 0 686 64u",
   "pl 0 687 64v pl 0 688 64o pl 0 689 64p pl 0 68a 64q pl 0 68b 64r pl 0 68c 64s pl 0 68d 64t",
   "pl 0 68e 64u pl 0 68f 64v pl 0 68g 65k pl 0 68h 65l pl 0 68i 65m pl 0 68j 65n pl 0 68k 65o",
   "pl 0 68l 65p pl 0 68m 65q pl 0 68n 65r pl 0 68o 65k pl 0 68p 65l pl 0 68q 65m pl 0 68r 65n",
   "pl 0 68s 65o pl 0 68t 65p pl 0 68u 65q pl 0 68v 65r pl 0 68w 67c pl 0 68x 67d pl 0 68y 67e",
   "pl 0 68z 67f pl 0 690 67g pl 0 691 67h pl 0 692 67i pl 0 693 67j pl 0 694 67c pl 0 695 67d",
   "pl 0 696 67e pl 0 697 67f pl 0 698 67g pl 0 699 67h pl 0 69a 67i pl 0 69b 67j pl 0 69e 69m",
   "pl 0 69f pd pl 0 69g p2 pl 0 69i pd n6 0 69j pd n6 pl 69o pd pl 0 69u 6a2 pl 0 69v pj pl 0",
   "69w p5 pl 0 69y pj n6 0 69z pj n6 pl 6a4 pj pl 0 6aa pl lk lc 6ab pl lk ld 6ae pl n6 0 6af",
   "pl lk n6 6aq px lk lc 6ar px lk ld 6as pt lv 0 6au px n6 0 6av px lk n6 6b6 6be pl 0 6b7",
   "q1 pl 0 6b8 pb pl 0 6ba q1 n6 0 6bb q1 n6 pl 6bg q1 pl 0 1dkw 1y 1y 0 1dkx 1y 21 0 1dky 1y",
   "24 0 1dkz 1y 1y 21 1dl0 1y 1y 24 1dl1 2b 2c 0 1dl2 2b 2c 0 1dlf 11g 11i 0 1dlg 11g 111 0",
   "1dlh 11g 117 0 1dli 11q 11i 0 1dlj 11g 119 0"]

/-- The expansions of a table that is written as four numbers each. -/
def expansionsFrom : List Nat → List (Nat × List Nat)
  | code :: a :: b :: c :: rest => (code, [a, b, c].filter (· ≠ 0)) :: expansionsFrom rest
  | _ => []

/-- The mapping to capitals. -/
def upperTable : Array CaseRun := (caseRunsFrom 0 (Ranges.numbers upperRuns)).toArray

/-- The mapping to small letters. -/
def lowerTable : Array CaseRun := (caseRunsFrom 0 (Ranges.numbers lowerRuns)).toArray

/-- The capitals of more than one character. -/
def expansionTable : List (Nat × List Nat) := expansionsFrom (Ranges.numbers upperExpansions)

/-- The code point that a mapping gives for one beyond ASCII. -/
def mapCase (table : Array CaseRun) (code : Nat) : Nat :=
  match table.find? fun run =>
    run.first ≤ code && code ≤ run.last && (code - run.first) % run.stride = 0 with
  | some run => ((code : Int) + run.distance).toNat
  | none => code

/-- The capital of a code point. -/
def upperCode (code : Nat) : List Nat :=
  if code < 128 then [if 97 ≤ code && code ≤ 122 then code - 32 else code]
  else
    match expansionTable.lookup code with
    | some capitals => capitals
    | none => [mapCase upperTable code]

/-- The small letter of a code point. -/
def lowerCode (code : Nat) : List Nat :=
  if code < 128 then [if 65 ≤ code && code ≤ 90 then code + 32 else code]
  else if code = 0x130 then [0x69, 0x307]
  else [mapCase lowerTable code]

/-- Whether a code point is a letter with a case. -/
def isCased (code : Nat) : Bool :=
  upperCode code ≠ [code] || lowerCode code ≠ [code]

/-- Whether a code point does not count when the end of a word is looked for. -/
def isCaseIgnorable (code : Nat) : Bool :=
  code = 0x27 || code = 0x2E || code = 0x3A || code = 0x5E || code = 0x60 || code = 0xA8 ||
    code = 0xAD || code = 0xAF || code = 0xB4 || code = 0xB7 || code = 0xB8 ||
    (0x2B0 ≤ code && code ≤ 0x36F) || code = 0x387 || (0x483 ≤ code && code ≤ 0x489) ||
    (0x2018 ≤ code && code ≤ 0x2019) || code = 0x2024 || code = 0x2027 ||
    (0x200B ≤ code && code ≤ 0x200F)

/-- Whether a cased letter is the nearest one that counts. -/
def meetsCased (codes : List Nat) : Bool :=
  match codes.dropWhile isCaseIgnorable with
  | code :: _ => isCased code
  | [] => false

/-- Code points in small letters, given those before them in reverse. -/
def lowerFrom (before : List Nat) : List Nat → List Nat
  | [] => []
  | code :: rest =>
    let small := if code = 0x3A3 then
        [if meetsCased before && !meetsCased rest then 0x3C2 else 0x3C3]
      else lowerCode code
    small ++ lowerFrom (code :: before) rest

namespace Units

/-- The string of code points. -/
def ofCodes (codes : List Nat) : Units := ⟨codes.foldl pushCode #[]⟩

/-- A string in capitals. -/
def toUpper (units : Units) : Units := ofCodes (units.codePoints.flatMap upperCode)

/-- A string in small letters. -/
def toLower (units : Units) : Units := ofCodes (lowerFrom [] units.codePoints)

end Units

end Scratchpad.Text
