import Mathlib.Data.List.Basic
import Scratchpad.Text.Blank
import Scratchpad.Text.Lines

/-!
# Lines and occurrences by their rules

The rule by which a text falls into lines is stated apart from the scan that finds them, and
`fallsInto_iff` shows that the scan finds the only lines that the rule allows. A carriage return
belongs to an ending only right before a line feed, so an unended last line keeps its own.
Occurrence of one text in another is read as list infix.
-/
namespace Scratchpad.Text

/-- How a text falls into lines. -/
inductive FallsInto : List Char → List (List Char) → Prop where
  /-- There is no line in nothing. -/
  | nothing : FallsInto [] []
  /-- What follows the last line feed is a line as it stands, unless it is empty. -/
  | unended (line : List Char) : line ≠ [] → '\n' ∉ line → FallsInto line [line]
  /-- A line may be ended by a line feed alone. -/
  | fed (line rest : List Char) (lines : List (List Char)) : '\n' ∉ line →
      line.getLast? ≠ some '\r' → FallsInto rest lines →
      FallsInto (line ++ '\n' :: rest) (line :: lines)
  /-- One carriage return before a line feed belongs to the ending. -/
  | returned (line rest : List Char) (lines : List (List Char)) : '\n' ∉ line →
      FallsInto rest lines → FallsInto (line ++ '\r' :: '\n' :: rest) (line :: lines)

/-- The scan passes over a character that does not end a line. -/
theorem linesFrom_cons {c : Char} (other : c ≠ '\n') (line rest : List Char) :
    linesFrom line (c :: rest) = linesFrom (c :: line) rest := by
  rw [linesFrom]
  intro same
  exact absurd same other

/-- The scan takes the whole of a stretch without a line feed into the line it is reading. -/
theorem linesFrom_append {stretch : List Char} (unfed : '\n' ∉ stretch) (line rest : List Char) :
    linesFrom line (stretch ++ rest) = linesFrom (stretch.reverse ++ line) rest := by
  induction stretch generalizing line with
  | nil => rfl
  | cons c stretch ih =>
    rw [List.mem_cons, not_or] at unfed
    rw [List.cons_append, linesFrom_cons (Ne.symm unfed.1), ih unfed.2]
    simp

/-- A reversed line loses nothing when it does not begin with a carriage return. -/
theorem dropReturn_of_getLast? {line : List Char} (kept : line.getLast? ≠ some '\r') :
    (dropReturn line.reverse).reverse = line := by
  rw [← List.head?_reverse] at kept
  cases reversed : line.reverse with
  | nil => simpa [dropReturn] using (List.reverse_eq_nil_iff.mp reversed).symm
  | cons c before =>
    rw [reversed] at kept
    have other : c ≠ '\r' := fun same => kept (by rw [same]; rfl)
    rw [dropReturn, ← reversed, List.reverse_reverse]
    intro _ same
    exact absurd (List.cons.inj same).1 other

/-- The scan of a line that is being read finds lines into which the whole text falls. -/
theorem fallsInto_linesFrom (line text : List Char) (unfed : '\n' ∉ line) :
    FallsInto (line.reverse ++ text) (linesFrom line text) := by
  induction text generalizing line with
  | nil =>
    rw [List.append_nil, linesFrom]
    cases line with
    | nil => exact .nothing
    | cons c line =>
      exact .unended _ (by simp) (by rwa [List.mem_reverse])
  | cons c rest ih =>
    by_cases feed : c = '\n'
    · subst feed
      have after := ih [] (by simp)
      rw [linesFrom]
      cases line with
      | nil => exact .fed [] rest _ (by simp) (by simp) after
      | cons last before =>
        by_cases carriage : last = '\r'
        · subst carriage
          have unfedBefore : '\n' ∉ before.reverse := by
            rw [List.mem_reverse]
            exact fun found => unfed (List.mem_cons_of_mem _ found)
          rw [List.reverse_cons, List.append_assoc]
          exact .returned before.reverse rest _ unfedBefore after
        · have kept : (last :: before).reverse.getLast? ≠ some '\r' := by
            rw [List.getLast?_reverse]
            exact fun same => carriage (Option.some.inj same)
          have whole := dropReturn_of_getLast? kept
          rw [List.reverse_reverse] at whole
          rw [whole]
          exact .fed _ rest _ (by rwa [List.mem_reverse]) kept after
    · rw [linesFrom_cons feed]
      have further := ih (c :: line) (by
        rw [List.mem_cons, not_or]
        exact ⟨Ne.symm feed, unfed⟩)
      rwa [List.reverse_cons, List.append_assoc] at further

/-- Lines into which a text falls are the ones that the scan finds. -/
theorem FallsInto.eq_lineChars {text : List Char} {lines : List (List Char)}
    (falls : FallsInto text lines) : lines = lineChars text := by
  induction falls with
  | nothing => rfl
  | unended line filled unfed =>
    have scanned := linesFrom_append unfed [] []
    rw [List.append_nil, List.append_nil] at scanned
    rw [lineChars, scanned, linesFrom]
    simp [filled]
  | fed line rest lines unfed kept _ ih =>
    rw [lineChars, linesFrom_append unfed, List.append_nil, linesFrom,
      dropReturn_of_getLast? kept, ih, lineChars]
  | returned line rest lines unfed _ ih =>
    rw [lineChars, linesFrom_append unfed, List.append_nil, linesFrom_cons (by decide), linesFrom,
      dropReturn, List.reverse_reverse, ih, lineChars]

/-- A text falls into exactly the lines that the scan finds. -/
theorem fallsInto_iff {text : List Char} {lines : List (List Char)} :
    FallsInto text lines ↔ lines = lineChars text := by
  constructor
  · exact FallsInto.eq_lineChars
  · rintro rfl
    exact fallsInto_linesFrom [] text (by simp)

/-- One list of characters occurs inside another exactly when it is an infix of it. -/
theorem occursIn_iff (part text : List Char) : occursIn part text = true ↔ part <:+: text := by
  induction text with
  | nil => simp [occursIn]
  | cons c rest ih =>
    rw [occursIn, Bool.or_eq_true, ih, List.isPrefixOf_iff_prefix, List.infix_cons_iff]

/-- One string occurs inside another exactly when its characters are an infix of the other's. -/
theorem contains_iff (text part : String) :
    contains text part = true ↔ part.toList <:+: text.toList :=
  occursIn_iff part.toList text.toList

end Scratchpad.Text
