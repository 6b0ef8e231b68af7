import Scratchpad.Proofs.Text.Trimming
import Scratchpad.Traceback

/-!
# Lines that tell of an exception

What makes a line tell of an exception is stated apart from the scan: the line begins with a capital
and with a dotted name, the name ends the line or a colon follows it, and the last part of the name
is that of an exception class. `exceptionLine_iff` shows that the scan finds just these lines, with
just these names, and that the class read off before the colon is the name itself.
-/
namespace Scratchpad.Traceback

/-- A character of a dotted name: an ASCII letter or digit, an underscore or a point. -/
def IsNameChar (c : Char) : Prop :=
  ('A' ≤ c ∧ c ≤ 'Z') ∨ ('a' ≤ c ∧ c ≤ 'z') ∨ ('0' ≤ c ∧ c ≤ '9') ∨ c = '_' ∨ c = '.'

/-- The longest beginning of a line that holds nothing but characters of a dotted name. -/
structure LeadingName (name line : List Char) : Prop where
  begins : name <+: line
  characters : ∀ c ∈ name, IsNameChar c
  longest : ∀ other, other <+: line → (∀ c ∈ other, IsNameChar c) → other <+: name

/-- The part of a dotted name after its last point, the whole of a name without one. -/
inductive LastPart : List Char → List Char → Prop where
  | whole {part : List Char} : '.' ∉ part → LastPart part part
  | after {path part : List Char} : '.' ∉ part → LastPart (path ++ '.' :: part) part

/-- The name of an exception class, without a module path. -/
def NamesException (part : List Char) : Prop :=
  ("Error".toList <:+ part ∨ "Exception".toList <:+ part ∨ "Warning".toList <:+ part) ∨
    part = "KeyboardInterrupt".toList ∨ part = "SystemExit".toList ∨
    part = "StopIteration".toList ∨ part = "GeneratorExit".toList

/-- A line that tells of an exception of a class. -/
structure ExceptionLine (name line : List Char) : Prop where
  /-- It begins with an ASCII capital. -/
  capital : ∃ first rest, line = first :: rest ∧ 'A' ≤ first ∧ first ≤ 'Z'
  /-- It is not the header of a traceback. -/
  headless : ¬"Traceback".toList <+: line
  /-- It begins with the name of the class. -/
  leading : LeadingName name line
  /-- The name is all of it, or a colon follows. -/
  ended : line = name ∨ ∃ rest, line = name ++ ':' :: rest
  /-- The last part of the name is that of an exception class. -/
  named : ∃ part, LastPart name part ∧ NamesException part

/-! ## The scan of a name -/

/-- The capitals are the letters from `A` to `Z`. -/
theorem isUpper_iff (c : Char) : c.isUpper = true ↔ 'A' ≤ c ∧ c ≤ 'Z' := decide_eq_true_iff

/-- The scan passes exactly over the characters of a dotted name. -/
theorem isNameChar_iff (c : Char) : isNameChar c = true ↔ IsNameChar c := by
  have classes : isNameChar c =
      (((c.isUpper || c.isLower) || c.isDigit) || c == '_' || c == '.') := rfl
  have lower : c.isLower = true ↔ 'a' ≤ c ∧ c ≤ 'z' :=
    Bool.and_eq_true_iff.trans (and_congr decide_eq_true_iff decide_eq_true_iff)
  have digit : c.isDigit = true ↔ '0' ≤ c ∧ c ≤ '9' :=
    Bool.and_eq_true_iff.trans (and_congr decide_eq_true_iff decide_eq_true_iff)
  simp only [classes, IsNameChar, Bool.or_eq_true, isUpper_iff, lower, digit, beq_iff_eq, or_assoc]

/-- Nothing but the scan's name is the longest dotted name at the front of a line. -/
theorem leadingName_iff {name line : List Char} : LeadingName name line ↔ name = nameOf line := by
  have begins : nameOf line <+: line := List.takeWhile_prefix isNameChar
  have characters : ∀ c ∈ nameOf line, IsNameChar c :=
    fun c found => (isNameChar_iff c).mp (List.mem_takeWhile_imp found)
  have longest : ∀ other, other <+: line → (∀ c ∈ other, IsNameChar c) →
      other <+: nameOf line := by
    rintro other ⟨rest, rfl⟩ named
    rw [nameOf, List.takeWhile_append_of_pos fun c found => (isNameChar_iff c).mpr (named c found)]
    exact List.prefix_append other _
  constructor
  · intro leading
    have inside := longest name leading.begins leading.characters
    have around := leading.longest (nameOf line) begins characters
    exact inside.eq_of_length_le around.length_le
  · rintro rfl
    exact ⟨begins, characters, longest⟩

/-- A colon is no character of a dotted name. -/
theorem not_isNameChar_colon : ¬IsNameChar ':' := by
  rw [← isNameChar_iff]
  decide

/-- A blank is no character of a dotted name. -/
theorem isBlank_of_isNameChar {c : Char} (named : IsNameChar c) : Text.isBlank c = false := by
  have code : (65 ≤ c.toNat ∧ c.toNat ≤ 90) ∨ (97 ≤ c.toNat ∧ c.toNat ≤ 122) ∨
      (48 ≤ c.toNat ∧ c.toNat ≤ 57) ∨ c.toNat = 95 ∨ c.toNat = 46 := by
    obtain ⟨lower, upper⟩ | ⟨lower, upper⟩ | ⟨lower, upper⟩ | rfl | rfl := named
    · exact .inl ⟨lower, upper⟩
    · exact .inr (.inl ⟨lower, upper⟩)
    · exact .inr (.inr (.inl ⟨lower, upper⟩))
    · exact .inr (.inr (.inr (.inl rfl)))
    · exact .inr (.inr (.inr (.inr rfl)))
  simp only [Text.isBlank, Bool.or_eq_false_iff, Bool.and_eq_false_iff, decide_eq_false_iff_not,
    beq_eq_false_iff_ne]
  omega

/-- The scan's name ends the line or a colon follows it exactly if the rest of the line says so. -/
theorem endsName_iff (line : List Char) : endsName (line.dropWhile isNameChar) = true ↔
    line = nameOf line ∨ ∃ rest, line = nameOf line ++ ':' :: rest := by
  have split : nameOf line ++ line.dropWhile isNameChar = line := List.takeWhile_append_dropWhile
  constructor
  · intro ends
    cases behind : line.dropWhile isNameChar with
    | nil =>
      rw [behind, List.append_nil] at split
      exact .inl split.symm
    | cons c rest =>
      rw [behind] at ends split
      have colon : c = ':' := beq_iff_eq.mp ends
      rw [colon] at split
      exact .inr ⟨rest, split.symm⟩
  · rintro (whole | ⟨rest, followed⟩)
    · have nothing : line.dropWhile isNameChar = [] :=
        List.append_cancel_left (split.trans (whole.trans (List.append_nil _).symm))
      rw [nothing]
      rfl
    · have colon : line.dropWhile isNameChar = ':' :: rest :=
        List.append_cancel_left (split.trans followed)
      rw [colon]
      rfl

/-- The last part of a name is the one that the backward scan stops before. -/
theorem lastPart_iff {name part : List Char} : LastPart name part ↔ part = lastPart name := by
  have unpointed {part : List Char} (free : '.' ∉ part) :
      ∀ c ∈ part.reverse, (c != '.') = true := by
    intro c found
    exact bne_iff_ne.mpr fun point => free (point ▸ List.mem_reverse.mp found)
  constructor
  · intro last
    cases last with
    | whole free =>
      rw [lastPart, List.takeWhile_eq_self_iff.mpr (unpointed free), List.reverse_reverse]
    | @after path part free =>
      have reversed : (path ++ '.' :: part).reverse = part.reverse ++ '.' :: path.reverse := by simp
      rw [lastPart, reversed, List.takeWhile_append_of_pos (unpointed free),
        List.takeWhile_cons_of_neg (by decide), List.append_nil, List.reverse_reverse]
  · rintro rfl
    have free : '.' ∉ lastPart name := by
      intro found
      have other := List.mem_takeWhile_imp (List.mem_reverse.mp found)
      exact absurd other (by decide)
    have split : (name.reverse.dropWhile (· != '.')).reverse ++ lastPart name = name := by
      rw [lastPart, ← List.reverse_append, List.takeWhile_append_dropWhile, List.reverse_reverse]
    cases before : name.reverse.dropWhile (· != '.') with
    | nil =>
      rw [before] at split
      have whole : LastPart (lastPart name) (lastPart name) := .whole free
      rwa [show lastPart name = name from split] at whole ⊢
    | cons c path =>
      have stopped := List.head?_dropWhile_not (· != '.') name.reverse
      rw [before] at stopped
      have point : c = '.' := by simpa using stopped
      rw [before, point, List.reverse_cons, List.append_assoc] at split
      have after : LastPart (path.reverse ++ '.' :: lastPart name) (lastPart name) := .after free
      rwa [show path.reverse ++ '.' :: lastPart name = name from split] at after

/-- The list of endings and the list of bare names are those of exception classes. -/
theorem namesException_iff (part : List Char) :
    namesException part = true ↔ NamesException part := by
  simp only [namesException, endings, bareNames, NamesException, Bool.or_eq_true, List.any_cons,
    List.any_nil, Bool.or_false, List.isSuffixOf_iff_suffix, List.contains_iff_mem, List.mem_cons,
    List.not_mem_nil, or_false]

/-- A line that begins with a capital is found by its first character. -/
theorem startsUpper_iff (line : List Char) : startsUpper line = true ↔
    ∃ first rest, line = first :: rest ∧ 'A' ≤ first ∧ first ≤ 'Z' := by
  cases line with
  | nil => simp [startsUpper]
  | cons c rest => simp [startsUpper, isUpper_iff]

/-- The scan finds exactly the lines that tell of an exception, with the names of their classes. -/
theorem isExceptionLine_iff {name line : List Char} :
    ExceptionLine name line ↔ isExceptionLine line = true ∧ name = nameOf line := by
  rw [isExceptionLine, Bool.and_eq_true, Bool.and_eq_true, Bool.and_eq_true, startsUpper_iff,
    Bool.not_eq_true', ← Bool.not_eq_true, List.isPrefixOf_iff_prefix, endsName_iff,
    namesException_iff]
  constructor
  · rintro ⟨capital, headless, leading, ended, part, last, named⟩
    obtain rfl := leadingName_iff.mp leading
    obtain rfl := lastPart_iff.mp last
    exact ⟨⟨⟨⟨capital, headless⟩, ended⟩, named⟩, rfl⟩
  · rintro ⟨⟨⟨⟨capital, headless⟩, ended⟩, named⟩, rfl⟩
    exact ⟨capital, headless, leadingName_iff.mpr rfl, ended, _, lastPart_iff.mpr rfl, named⟩

/-! ## What a line tells -/

/-- A line that begins with a capital is not indented. -/
theorem not_isIndented_of_capital {line : List Char}
    (capital : ∃ first rest, line = first :: rest ∧ 'A' ≤ first ∧ first ≤ 'Z') :
    isIndented line = false := by
  obtain ⟨first, rest, rfl, lower, upper⟩ := capital
  exact isBlank_of_isNameChar (.inl ⟨lower, upper⟩)

/-- The search stops exactly at a line that tells of an exception of some class. -/
theorem tellsException_iff (line : List Char) :
    tellsException line = true ↔ ∃ name, ExceptionLine name line := by
  constructor
  · intro tells
    rw [tellsException, Bool.and_eq_true] at tells
    exact ⟨_, isExceptionLine_iff.mpr ⟨tells.2, rfl⟩⟩
  · rintro ⟨name, exception⟩
    rw [tellsException, not_isIndented_of_capital exception.capital,
      (isExceptionLine_iff.mp exception).1]
    rfl

/-- The search passes exactly over the lines that tell of no exception. -/
theorem tellsException_eq_false_iff (line : List Char) :
    tellsException line = false ↔ ¬∃ name, ExceptionLine name line := by
  rw [← tellsException_iff, Bool.not_eq_true]

/-- The name of a class is neither empty nor cut by a colon, and no blanks are around it. -/
theorem ExceptionLine.uncut {name line : List Char} (exception : ExceptionLine name line) :
    ∀ c ∈ name, (c != ':') = true ∧ Text.isBlank c = false := by
  intro c found
  have named := exception.leading.characters c found
  refine ⟨bne_iff_ne.mpr fun colon => ?_, isBlank_of_isNameChar named⟩
  rw [colon] at named
  exact not_isNameChar_colon named

/-- The class before the first colon of a line is the name that the line begins with. -/
theorem ExceptionLine.kindOf {name line : List Char} (exception : ExceptionLine name line) :
    kindOf line = name := by
  have before : line.takeWhile (· != ':') = name := by
    have uncut : ∀ c ∈ name, (c != ':') = true := fun c found => (exception.uncut c found).1
    obtain rfl | ⟨rest, rfl⟩ := exception.ended
    · exact List.takeWhile_eq_self_iff.mpr uncut
    · rw [List.takeWhile_append_of_pos uncut, List.takeWhile_cons_of_neg (by decide),
        List.append_nil]
  have unblank : ∀ c ∈ name, Text.isBlank c = false := fun c found => (exception.uncut c found).2
  have whole : Text.Trimmed name name :=
    ⟨⟨[], [], by simp, nofun, nofun⟩, fun c first => unblank c (List.mem_of_head? first),
      fun c last => unblank c (List.mem_of_getLast? last)⟩
  rw [Traceback.kindOf, before, ← whole.eq_trimChars]

/-- What follows the class of a line: nothing, or what is left of the text behind the colon without
the blanks around it. -/
inductive SaysMessage (name : List Char) : List Char → List Char → Prop where
  | nothing : SaysMessage name name []
  | behind {rest message : List Char} : Text.Trimmed rest message →
      SaysMessage name (name ++ ':' :: rest) message

/-- The message of a line is what follows the class. -/
theorem ExceptionLine.saysMessage {name line message : List Char}
    (exception : ExceptionLine name line) :
    SaysMessage name line message ↔ message = messageOf line := by
  have uncut : ∀ c ∈ name, (c != ':') = true := fun c found => (exception.uncut c found).1
  have alone : messageOf name = [] := by
    rw [messageOf, List.dropWhile_eq_nil_iff.mpr uncut]
    rfl
  have followed (rest : List Char) : messageOf (name ++ ':' :: rest) = Text.trimChars rest := by
    rw [messageOf, List.dropWhile_append_of_pos uncut, List.dropWhile_cons_of_neg (by decide)]
    rfl
  constructor
  · intro told
    cases told with
    | nothing => exact alone.symm
    | behind trimmed => rw [followed]; exact trimmed.eq_trimChars
  · rintro rfl
    obtain rfl | ⟨rest, rfl⟩ := exception.ended
    · rw [alone]
      exact .nothing
    · rw [followed]
      exact .behind (Text.trimmed_trimChars rest)

end Scratchpad.Traceback
