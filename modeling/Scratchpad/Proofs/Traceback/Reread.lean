import Scratchpad.Failure
import Scratchpad.Proofs.Text.Joining
import Scratchpad.Proofs.Traceback.ClassNames
import Scratchpad.Proofs.Traceback.LastException

/-!
# Exceptions read again

What is shown of an exception is its traceback, or else its class and its message put together. Both
are texts in which the same exception is told again: a traceback holds its own header and its own
last line, and a class with a trimmed message behind a colon is read off as these two.
-/
namespace Scratchpad.Traceback

/-- The message of a line holds nothing but characters of the line. -/
theorem messageOf_subset (line : List Char) : messageOf line ⊆ line := by
  obtain ⟨before, after, around, -, -⟩ :=
    (Text.trimmed_trimChars ((line.dropWhile (· != ':')).drop 1)).around
  intro c found
  have inside : c ∈ (line.dropWhile (· != ':')).drop 1 := by
    rw [around]
    exact List.mem_append_left _ (List.mem_append_right _ found)
  exact (List.dropWhile_sublist _).subset (List.mem_of_mem_drop inside)

/-- A message that was trimmed is the same behind a class, a colon and a blank. -/
theorem messageOf_followed {name : List Char} (className : ClassName name) (line : List Char) :
    messageOf (name ++ ':' :: ' ' :: messageOf line) = messageOf line := by
  have left := Text.trimmed_trimChars ((line.dropWhile (· != ':')).drop 1)
  have trimmed : Text.Trimmed (' ' :: messageOf line) (messageOf line) := by
    refine ⟨⟨[' '], [], by simp, ?_, nofun⟩, left.first, left.last⟩
    exact List.forall_mem_singleton.mpr (by decide)
  exact ((className.followed _).saysMessage.mp (.behind trimmed)).symm

/-- A text of one line that tells of an exception tells of it without a traceback. -/
theorem parse_alone {name line : List Char} (exception : ExceptionLine name line)
    (unfed : '\n' ∉ line) : parse (String.ofList line) = some {
      kind := String.ofList name
      message := String.ofList (messageOf line)
      traceback := none } := by
  have falls : Text.FallsInto (String.ofList line).toList [line] := by
    rw [String.toList_ofList]
    exact .unended line exception.ne_nil unfed
  have split : Text.lineChars (String.ofList line).toList = [] ++ line :: [] :=
    (Text.fallsInto_iff.mp falls).symm
  have headless : ∀ other ∈ ([] : List (List Char)), isHeader other = false := nofun
  have found := raisedBy_of_headless headless line
  rw [parse_of_split split ((tellsException_iff line).mpr ⟨name, exception⟩) nofun, found,
    exception.kindOf]

/-- An exception without a traceback is told by its class with its message. -/
theorem parse_text_of_headless {name line : List Char} (exception : ExceptionLine name line)
    (unfed : '\n' ∉ line) :
    parse (Raised.text ⟨String.ofList name, String.ofList (messageOf line), none⟩) =
      some ⟨String.ofList name, String.ofList (messageOf line), none⟩ := by
  have className := exception.className
  by_cases silent : messageOf line = []
  · have shown : Raised.text ⟨String.ofList name, String.ofList (messageOf line), none⟩ =
        String.ofList name := by
      rw [silent]
      rfl
    have alone : messageOf name = [] := (className.alone.saysMessage.mp .nothing).symm
    rw [shown, parse_alone className.alone className.unended.1, alone, silent]
  · have shown : Raised.text ⟨String.ofList name, String.ofList (messageOf line), none⟩ =
        String.ofList (name ++ ':' :: ' ' :: messageOf line) := by
      rw [← String.toList_inj]
      simp [Raised.text, silent]
    have unfedText : '\n' ∉ name ++ ':' :: ' ' :: messageOf line := by
      have unfedMessage : '\n' ∉ messageOf line := fun found => unfed (messageOf_subset line found)
      simp [className.unended.1, unfedMessage]
    rw [shown, parse_alone (className.followed _) unfedText, messageOf_followed className]

/-- A traceback tells of the exception that it was shown for. -/
theorem parse_traceback {head line : List Char} {frames : List (List Char)}
    (begins : isHeader head = true) (headless : ∀ frame ∈ frames, isHeader frame = false)
    (tells : tellsException line = true) (filled : line ≠ [])
    (unfed : ∀ other ∈ (head :: frames) ++ [line], '\n' ∉ other)
    (kept : ∀ other ∈ head :: frames, other.getLast? ≠ some '\r') :
    parse (Text.joinLines ((head :: (frames ++ [line])).map String.ofList)) = some {
      kind := String.ofList (kindOf line)
      message := String.ofList (messageOf line)
      traceback := some (Text.joinLines ((head :: (frames ++ [line])).map String.ofList)) } := by
  have falls := Text.fallsInto_joined filled unfed kept
  rw [List.cons_append, ← Text.toList_joinLines] at falls
  have split : Text.lineChars
      (Text.joinLines ((head :: (frames ++ [line])).map String.ofList)).toList =
        ([] ++ head :: frames) ++ line :: [] := (Text.fallsInto_iff.mp falls).symm
  exact parse_of_headed split begins headless tells nofun

/-- What is shown of the exception that a text without carriage returns tells of is a text that
tells of the same exception. -/
theorem parse_failure_text {stream : String} {raised : Raised} (unreturned : '\r' ∉ stream.toList)
    (parsed : parse stream = some raised) :
    parse (Failure.exception raised).text = some raised := by
  have falls := Text.fallsInto_iff.mpr (rfl : Text.lineChars stream.toList = _)
  have unfed := falls.unfed
  have kept : ∀ line ∈ Text.lineChars stream.toList, line.getLast? ≠ some '\r' :=
    fun line inside last => unreturned (falls.subset line inside (List.mem_of_getLast? last))
  obtain silent | ⟨before, line, after, split, tells, silent⟩ :=
    silent_or_last tellsException (Text.lineChars stream.toList)
  · cases parsed.symm.trans (parse_of_silent silent)
  · obtain ⟨name, exception⟩ := (tellsException_iff line).mp tells
    rw [parse_of_split split tells silent, Option.some.injEq] at parsed
    rw [split] at unfed kept
    obtain headless | ⟨earlier, head, frames, rfl, begins, headless⟩ :=
      silent_or_last isHeader before
    · rw [raisedBy_of_headless headless, exception.kindOf] at parsed
      subst parsed
      exact parse_text_of_headless exception (unfed line (by simp))
    · rw [raisedBy_of_split earlier begins headless] at parsed
      subst parsed
      have own : (head :: frames) ++ [line] <:+: (earlier ++ head :: frames) ++ line :: after :=
        ⟨earlier, after, by simp⟩
      refine parse_traceback begins headless tells exception.ne_nil ?_ ?_
      · exact fun other inside => unfed other (own.subset inside)
      · exact fun other inside => kept other (own.subset (List.mem_append_left _ inside))

/-- A traceback between other lines. -/
def surroundedStream : String :=
  "KeyError: 0\nTraceback (most recent call last):\n  File \"a.py\", line 2\n" ++
    "App.Error:  late: \tvery \n  and later\n"

/-- A warning with blanks around its message. -/
def paddedStream : String := "ready\nUserWarning :\nUserWarning: \t[Errno 29]: I/O  \n"

/-- An exception with a traceback and one without are told again. -/
theorem parse_failure_text_padded : ∃ surrounded padded,
    '\r' ∉ surroundedStream.toList ∧ parse surroundedStream = some surrounded ∧
    surrounded.traceback = some ("Traceback (most recent call last):\n" ++
      "  File \"a.py\", line 2\nApp.Error:  late: \tvery ") ∧
    parse (Failure.exception surrounded).text = some surrounded ∧
    '\r' ∉ paddedStream.toList ∧ parse paddedStream = some padded ∧
    (Failure.exception padded).text = "UserWarning: [Errno 29]: I/O" ∧
    parse (Failure.exception padded).text = some padded := by
  have surrounded : parse surroundedStream = some ⟨"App.Error", "late: \tvery",
    some ("Traceback (most recent call last):\n" ++
      "  File \"a.py\", line 2\nApp.Error:  late: \tvery ")⟩ := by decide +kernel
  have padded : parse paddedStream = some ⟨"UserWarning", "[Errno 29]: I/O", none⟩ := by
    decide +kernel
  exact ⟨_, _, by decide +kernel, surrounded, rfl,
    parse_failure_text (by decide +kernel) surrounded, by decide +kernel, padded,
    by decide +kernel, parse_failure_text (by decide +kernel) padded⟩

end Scratchpad.Traceback
