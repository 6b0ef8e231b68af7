import Mathlib.Data.List.TakeWhile
import Scratchpad.Text.Blank

/-!
# Texts without the blanks around them

What is left of a text when the blanks at its ends are taken away, by its rule: nothing but blanks
was around it, and it neither begins nor ends with one. `trimmed_iff` shows that the two scans find
the only text that the rule allows.
-/
namespace Scratchpad.Text

/-- What is left of a text without the blanks around it. -/
structure Trimmed (text core : List Char) : Prop where
  /-- Only blanks are taken away. -/
  around : ∃ before after, text = before ++ core ++ after ∧ (∀ c ∈ before, isBlank c = true) ∧
    ∀ c ∈ after, isBlank c = true
  /-- What is left does not begin with a blank. -/
  first : ∀ c, core.head? = some c → isBlank c = false
  /-- What is left does not end with a blank. -/
  last : ∀ c, core.getLast? = some c → isBlank c = false

/-- Blanks in front of a text are passed over. -/
theorem dropWhile_blanks {before : List Char} (blanks : ∀ c ∈ before, isBlank c = true)
    (rest : List Char) : (before ++ rest).dropWhile isBlank = rest.dropWhile isBlank := by
  rw [List.dropWhile_append, List.dropWhile_eq_nil_iff.mpr blanks]
  rfl

/-- A text that does not begin with a blank is kept whole. -/
theorem dropWhile_of_head? {text : List Char}
    (first : ∀ c, text.head? = some c → isBlank c = false) : text.dropWhile isBlank = text := by
  cases text with
  | nil => rfl
  | cons c rest => rw [List.dropWhile_cons_of_neg (by simp [first c rfl])]

/-- Blanks behind a text that does not end with one are taken away. -/
theorem trimEnd_append {core after : List Char}
    (last : ∀ c, core.getLast? = some c → isBlank c = false)
    (blanks : ∀ c ∈ after, isBlank c = true) : trimEnd (core ++ after) = core := by
  have reversed : ∀ c, core.reverse.head? = some c → isBlank c = false := by
    simpa only [List.head?_reverse] using last
  have behind : ∀ c ∈ after.reverse, isBlank c = true := by
    simpa only [List.mem_reverse] using blanks
  rw [trimEnd, List.reverse_append, dropWhile_blanks behind, dropWhile_of_head? reversed,
    List.reverse_reverse]

/-- What is left by the rule is what the scans leave. -/
theorem Trimmed.eq_trimChars {text core : List Char} (trimmed : Trimmed text core) :
    core = trimChars text := by
  obtain ⟨⟨before, after, rfl, blanksBefore, blanksAfter⟩, first, last⟩ := trimmed
  rw [trimChars, trimStart, List.append_assoc, dropWhile_blanks blanksBefore]
  cases core with
  | nil =>
    rw [List.nil_append, List.dropWhile_eq_nil_iff.mpr blanksAfter]
    rfl
  | cons c rest =>
    have kept : (c :: rest ++ after).dropWhile isBlank = c :: rest ++ after :=
      dropWhile_of_head? first
    rw [kept, trimEnd_append last blanksAfter]

/-- The scans leave what is left by the rule. -/
theorem trimmed_trimChars (text : List Char) : Trimmed text (trimChars text) := by
  have front : text = text.takeWhile isBlank ++ trimStart text :=
    List.takeWhile_append_dropWhile.symm
  have back : trimStart text =
      trimChars text ++ ((trimStart text).reverse.takeWhile isBlank).reverse := by
    rw [trimChars, trimEnd, ← List.reverse_append, List.takeWhile_append_dropWhile,
      List.reverse_reverse]
  constructor
  · refine ⟨_, _, by rw [List.append_assoc, ← back]; exact front, ?_, ?_⟩
    · exact fun c found => List.mem_takeWhile_imp found
    · exact fun c found => List.mem_takeWhile_imp (List.mem_reverse.mp found)
  · intro c begins
    have start : (trimStart text).head? = some c := by
      rw [back, List.head?_append, begins]
      rfl
    have unblank := List.head?_dropWhile_not isBlank text
    rw [← trimStart, start] at unblank
    exact unblank
  · intro c ends
    rw [trimChars, trimEnd, List.getLast?_reverse] at ends
    have unblank := List.head?_dropWhile_not isBlank (trimStart text).reverse
    rw [ends] at unblank
    exact unblank

/-- What is left by the rule is exactly what the scans leave. -/
theorem trimmed_iff {text core : List Char} : Trimmed text core ↔ core = trimChars text := by
  constructor
  · exact Trimmed.eq_trimChars
  · rintro rfl
    exact trimmed_trimChars text

end Scratchpad.Text
