import Scratchpad.Proofs.Traceback.ExceptionLines

/-!
# Names of exception classes

Whether a line tells of an exception is decided by the name at its front alone, once the name is all
of the line or a colon follows it: `exceptionLine_iff` splits a line into the name and the rest. So
what stands behind the colon may be replaced or left out, and the line tells of the same class.
-/
namespace Scratchpad.Traceback

/-- A name that begins as a class does: with a capital, and not with the first word of a header. -/
structure BeginsAsClass (name : List Char) : Prop where
  capital : ∃ first rest, name = first :: rest ∧ 'A' ≤ first ∧ first ≤ 'Z'
  headless : ¬"Traceback".toList <+: name

/-- A name that tells of an exception where it stands at the front of a line. -/
structure ClassName (name : List Char) : Prop extends BeginsAsClass name where
  characters : ∀ c ∈ name, IsNameChar c
  named : ∃ part, LastPart name part ∧ NamesException part

/-- What may stand behind a name: nothing, or a colon and anything. -/
def EndsName (rest : List Char) : Prop := rest = [] ∨ ∃ behind, rest = ':' :: behind

/-- A stretch of name characters in front of what ends a name is the leading name. -/
theorem leadingName_append {name rest : List Char} (characters : ∀ c ∈ name, IsNameChar c)
    (ends : EndsName rest) : LeadingName name (name ++ rest) := by
  have passed : ∀ c ∈ name, isNameChar c = true :=
    fun c found => (isNameChar_iff c).mpr (characters c found)
  have stopped : rest.takeWhile isNameChar = [] := by
    obtain rfl | ⟨behind, rfl⟩ := ends
    · rfl
    · exact List.takeWhile_cons_of_neg (by decide)
  rw [leadingName_iff, nameOf, List.takeWhile_append_of_pos passed, stopped, List.append_nil]

/-- What begins a line and holds only name characters begins its leading name. -/
theorem LeadingName.begins_iff {name line word : List Char} (leading : LeadingName name line)
    (characters : ∀ c ∈ word, IsNameChar c) : word <+: line ↔ word <+: name :=
  ⟨fun begins => leading.longest word begins characters, fun begins => begins.trans leading.begins⟩

/-- The first word of a header holds only name characters. -/
theorem isNameChar_of_mem_header : ∀ c ∈ "Traceback".toList, IsNameChar c := by
  have passed : "Traceback".toList.all isNameChar = true := by decide
  exact fun c found => (isNameChar_iff c).mp (List.all_eq_true.mp passed c found)

/-- A line that begins with a name tells of an exception of that name exactly if it is the name of a
class and the rest of the line ends it. -/
theorem exceptionLine_iff {name rest : List Char} :
    ExceptionLine name (name ++ rest) ↔ ClassName name ∧ EndsName rest := by
  constructor
  · rintro ⟨⟨first, behind, split, lower, upper⟩, headless, leading, ended, named⟩
    have capital : [first] <+: name := by
      refine (leading.begins_iff ?_).mp ⟨behind, split.symm⟩
      exact List.forall_mem_singleton.mpr (.inl ⟨lower, upper⟩)
    obtain ⟨tail, whole⟩ := capital
    refine ⟨⟨⟨⟨first, tail, whole.symm, lower, upper⟩, ?_⟩, leading.characters, named⟩, ?_⟩
    · rwa [leading.begins_iff isNameChar_of_mem_header] at headless
    · obtain alone | ⟨message, followed⟩ := ended
      · exact .inl (List.append_cancel_left (alone.trans (List.append_nil name).symm))
      · exact .inr ⟨message, List.append_cancel_left followed⟩
  · rintro ⟨⟨⟨⟨first, tail, rfl, lower, upper⟩, headless⟩, characters, named⟩, ends⟩
    have leading := leadingName_append characters ends
    refine ⟨⟨first, tail ++ rest, rfl, lower, upper⟩, ?_, leading, ?_, named⟩
    · rwa [leading.begins_iff isNameChar_of_mem_header]
    · obtain rfl | ⟨message, rfl⟩ := ends
      · exact .inl (List.append_nil _)
      · exact .inr ⟨message, rfl⟩

/-- A line that tells of an exception begins with the name of its class. -/
theorem ExceptionLine.className {name line : List Char} (exception : ExceptionLine name line) :
    ClassName name := by
  obtain ⟨rest, rfl⟩ := exception.leading.begins
  exact (exceptionLine_iff.mp exception).1

/-- A line that tells of an exception is not empty. -/
theorem ExceptionLine.ne_nil {name line : List Char} (exception : ExceptionLine name line) :
    line ≠ [] := by
  obtain ⟨first, rest, rfl, -⟩ := exception.capital
  exact List.cons_ne_nil first rest

namespace ClassName

variable {name : List Char}

/-- The name of a class tells of it where it stands alone. -/
theorem alone (className : ClassName name) : ExceptionLine name name := by
  have exception := exceptionLine_iff.mpr ⟨className, .inl rfl⟩
  rwa [List.append_nil] at exception

/-- The name of a class tells of it whatever stands behind the colon. -/
theorem followed (className : ClassName name) (message : List Char) :
    ExceptionLine name (name ++ ':' :: message) :=
  exceptionLine_iff.mpr ⟨className, .inr ⟨message, rfl⟩⟩

/-- A character of the name of a class is neither a line feed nor a carriage return. -/
theorem unended (className : ClassName name) : '\n' ∉ name ∧ '\r' ∉ name := by
  constructor
  · intro feed
    exact absurd (isBlank_of_isNameChar (className.characters _ feed)) (by decide)
  · intro returned
    exact absurd (isBlank_of_isNameChar (className.characters _ returned)) (by decide)

end ClassName

end Scratchpad.Traceback
