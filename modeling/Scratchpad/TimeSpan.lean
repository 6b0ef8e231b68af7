/-!
# Spans of time

A span of whole seconds and nanoseconds, and the text that names it in the largest unit of which
it holds at least one: seconds, milliseconds, microseconds or nanoseconds, with every fraction
digit that is not a trailing zero.
-/
namespace Scratchpad

/-- A span of time. -/
structure TimeSpan where
  /-- Whole seconds. -/
  secs : Nat
  /-- Nanoseconds beyond the whole seconds. -/
  nanos : Nat
deriving DecidableEq, Repr, Inhabited

namespace TimeSpan

/-- A span of whole seconds. -/
def ofSecs (secs : Nat) : TimeSpan := ⟨secs, 0⟩

/-- A span of whole milliseconds. -/
def ofMillis (millis : Nat) : TimeSpan := ⟨millis / 1000, millis % 1000 * 1000000⟩

/-- The whole span in nanoseconds. -/
def totalNanos (span : TimeSpan) : Nat := span.secs * 1000000000 + span.nanos

/-- A number written with exactly `places` digits, zeros in front. -/
def padded (places value : Nat) : List Char :=
  let digits := Nat.toDigits 10 value
  List.replicate (places - digits.length) '0' ++ digits

/-- Digits without the zeros at their end. -/
def dropTrailingZeros (digits : List Char) : List Char :=
  (digits.reverse.dropWhile (· == '0')).reverse

/-- A whole number with a fraction of `places` digits, the fraction's trailing zeros left out, and
no point when nothing is left of it. -/
def decimal (whole places fraction : Nat) : String :=
  let digits := dropTrailingZeros (padded places fraction)
  if digits.isEmpty then toString whole else toString whole ++ "." ++ String.ofList digits

/-- The span in the largest unit of which it holds at least one. -/
def text (span : TimeSpan) : String :=
  if span.secs > 0 then decimal span.secs 9 span.nanos ++ "s"
  else if span.nanos ≥ 1000000 then decimal (span.nanos / 1000000) 6 (span.nanos % 1000000) ++ "ms"
  else if span.nanos ≥ 1000 then decimal (span.nanos / 1000) 3 (span.nanos % 1000) ++ "µs"
  else toString span.nanos ++ "ns"

end TimeSpan

end Scratchpad
