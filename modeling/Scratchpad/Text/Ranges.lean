/-!
# Ranges of code points

Sorted ranges, in which a code point is found by halving. A table of them is written in base 36,
each range as the gap from the end of the one before and its length.
-/
namespace Scratchpad.Text

/-- Ranges in ascending order, each by its first code point and the one after its last. -/
structure Ranges where
  bounds : Array (Nat × Nat)
deriving Inhabited

namespace Ranges

/-- The value of a digit in base 36. -/
def digitValue (c : Char) : Nat := if c.isDigit then c.toNat - 48 else c.toNat - 87

/-- The number that a word spells in base 36. -/
def number (word : String) : Nat := word.foldl (fun value c => value * 36 + digitValue c) 0

/-- The numbers of a table that is written in lines of words. -/
def numbers (lines : List String) : List Nat :=
  lines.flatMap fun line => (line.splitOn " ").map number

/-- Ranges of gaps and lengths, after those found so far. -/
def ofGaps (found : Array (Nat × Nat)) (stop : Nat) : List Nat → Array (Nat × Nat)
  | gap :: length :: rest =>
    ofGaps (found.push (stop + gap, stop + gap + length)) (stop + gap + length) rest
  | _ => found

/-- The ranges of a written table. -/
def ofRuns (lines : List String) : Ranges := ⟨ofGaps #[] 0 (numbers lines)⟩

/-- Whether one of the ranges from `low` up to `high` holds a code point. -/
def search (ranges : Ranges) (code : Nat) : Nat → Nat → Nat → Bool
  | 0, _, _ => false
  | fuel + 1, low, high =>
    if low < high then
      let middle := (low + high) / 2
      match ranges.bounds[middle]? with
      | some (first, stop) =>
        if code < first then search ranges code fuel low middle
        else if code < stop then true
        else search ranges code fuel (middle + 1) high
      | none => false
    else false

/-- Whether one of the ranges holds a code point. -/
def contains (ranges : Ranges) (code : Nat) : Bool :=
  ranges.search code ranges.bounds.size 0 ranges.bounds.size

end Ranges

end Scratchpad.Text
