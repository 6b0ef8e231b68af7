import Scratchpad.Failure
import Scratchpad.Proofs.Text.Joining
import Scratchpad.Proofs.Traceback.ClassNames
import Scratchpad.Proofs.Traceback.LastException

/-!
# Printouts of uncaught exceptions

An interpreter prints a header, the lines of the frames, and the class with a message that may go on
over several lines. The exception is read off one line, so what is shown is the printout exactly if
the message is a single line: `printout_rendered_iff`. Of a longer message that tells of no other
exception the first line is shown, and the lines after it are lost.
-/
namespace Scratchpad.Traceback

/-- What an interpreter prints of an uncaught exception. -/
structure Printout where
  name : List Char
  frames : List (List Char)
  message : List Char
  /-- The class is one that a line can tell of. -/
  className : ClassName name
  /-- Each frame is an indented line. -/
  indented : ∀ frame ∈ frames, ∃ c rest, frame = c :: rest ∧ Text.isBlank c = true
  unfed : ∀ frame ∈ frames, '\n' ∉ frame
  unreturned : '\r' ∉ message

namespace Printout

/-- The printed text without the line feed at its end. -/
def shown (printout : Printout) : List Char :=
  "Traceback (most recent call last):".toList ++ '\n' :: (Text.printed printout.frames ++
    (printout.name ++ (": ".toList ++ printout.message)))

/-- The printed text. -/
def stream (printout : Printout) : String := String.ofList (printout.shown ++ ['\n'])

/-- An exception renders a printout if it is that of the class and is shown as it was printed. -/
structure Renders (printout : Printout) (raised : Raised) : Prop where
  parsed : parse printout.stream = some raised
  kind : raised.kind = String.ofList printout.name
  /-- No line of the message is dropped. -/
  text : (Failure.exception raised).text = String.ofList printout.shown
  /-- No line of the message is taken for the exception, which the line behind the frames tells. -/
  untaken : ∃ line, LastAt (Text.lineChars printout.stream.toList)
    (fun line => ∃ name, ExceptionLine name line) (printout.frames.length + 1) line

variable (printout : Printout)

/-- The line that the class begins, as long as the message stays on it. -/
def classLine (message : List Char) : List Char := printout.name ++ ':' :: ' ' :: message

/-- The lines of a printout: the header, the frames, and those of the class with the message. -/
def rows : List (List Char) :=
  header :: (printout.frames ++ (printout.classLine printout.message).splitOn '\n')

/-! ## The lines of a printout -/

/-- The lines of a printout hold no line feeds. -/
theorem unfed_rows : ∀ row ∈ printout.rows, '\n' ∉ row := by
  rw [rows, List.forall_mem_cons, List.forall_mem_append]
  exact ⟨by decide, printout.unfed, fun row inside => (Text.mem_splitOn _ row inside).1⟩

/-- There are lines in a printout. -/
theorem rows_ne_nil : printout.rows ≠ [] := List.cons_ne_nil _ _

/-- A printout is joined of its lines. -/
theorem joined_rows : Text.joined printout.rows = printout.shown := by
  have split : (printout.classLine printout.message).splitOn '\n' ≠ [] := List.splitOn_ne_nil _ _
  rw [rows, Text.joined_cons header (by simp [split]), Text.joined_append _ split,
    Text.joined_splitOn]
  rfl

/-- The lines that a printout is read by: those of it, without carriage returns at their ends. -/
theorem lineChars_stream :
    Text.lineChars printout.stream.toList = printout.rows.map Text.unreturned := by
  have falls := Text.fallsInto_ofList_printed printout.unfed_rows rfl
  rw [← Text.joined_feed printout.rows_ne_nil, joined_rows, ← stream] at falls
  exact (Text.fallsInto_iff.mp falls).symm

/-- A line of the class with a message keeps its end. -/
theorem kept_classLine {message : List Char} (unreturned : '\r' ∉ message) :
    '\r' ∉ printout.classLine message := by
  simp [classLine, printout.className.unended.2, unreturned]

/-- The class with a message of one line stands on one line. -/
theorem unfed_classLine {message : List Char} (unfed : '\n' ∉ message) :
    '\n' ∉ printout.classLine message := by
  simp [classLine, printout.className.unended.1, unfed]

/-- If no frame ends with a carriage return, the lines of a printout are read as they are. -/
theorem lineChars_stream_of_kept (kept : ∀ frame ∈ printout.frames, frame.getLast? ≠ some '\r') :
    Text.lineChars printout.stream.toList = printout.rows := by
  have keptLines : ∀ row ∈ (printout.classLine printout.message).splitOn '\n',
      row.getLast? ≠ some '\r' := by
    intro row inside last
    have found := (Text.mem_splitOn _ row inside).2 (List.mem_of_getLast? last)
    exact printout.kept_classLine printout.unreturned found
  rw [lineChars_stream, Text.map_unreturned]
  rw [rows, List.forall_mem_cons, List.forall_mem_append]
  exact ⟨by decide, kept, keptLines⟩

/-- The header is one. -/
theorem isHeader_header : isHeader header = true := by decide

/-- A frame is no header. -/
theorem headless_frames : ∀ frame ∈ printout.frames, isHeader frame = false := by
  intro frame inside
  obtain ⟨c, rest, rfl, blank⟩ := printout.indented frame inside
  exact not_isHeader_of_blank blank rest

/-- If the lines after the one of the class tell of no exception, the exception is that of the
class, shown up to this line. -/
theorem exists_parsed {message : List Char} {others : List (List Char)}
    (kept : ∀ frame ∈ printout.frames, frame.getLast? ≠ some '\r')
    (split : printout.rows = (header :: printout.frames) ++ printout.classLine message :: others)
    (silent : ∀ other ∈ others, ¬∃ name, ExceptionLine name other) :
    ∃ raised, parse printout.stream = some raised ∧
      raised.kind = String.ofList printout.name ∧
      (Failure.exception raised).text.toList =
        Text.joined ((header :: printout.frames) ++ [printout.classLine message]) := by
  have exception := printout.className.followed (' ' :: message)
  have lines : Text.lineChars printout.stream.toList =
      ([] ++ header :: printout.frames) ++ printout.classLine message :: others :=
    (printout.lineChars_stream_of_kept kept).trans split
  have parsed := parse_of_headed lines isHeader_header printout.headless_frames
    ((tellsException_iff _).mpr ⟨_, exception⟩)
    fun other inside => (tellsException_eq_false_iff other).mpr (silent other inside)
  refine ⟨_, parsed, congrArg String.ofList exception.kindOf, ?_⟩
  exact Text.toList_joinLines _

/-- A message of one line keeps all of a printout on lines of their own. -/
theorem rows_of_unfed (unfed : '\n' ∉ printout.message) :
    printout.rows = (header :: printout.frames) ++ [printout.classLine printout.message] := by
  rw [rows, List.splitOn_eq_singleton (printout.unfed_classLine unfed), List.cons_append]

/-- A printout with a single line behind its frames has a message of one line. -/
theorem unfed_of_length (length : printout.rows.length = printout.frames.length + 2) :
    '\n' ∉ printout.message := by
  rw [rows, List.length_cons, List.length_append] at length
  obtain ⟨row, single⟩ := List.length_eq_one_iff.mp
    (show ((printout.classLine printout.message).splitOn '\n').length = 1 by omega)
  have whole := Text.joined_splitOn (printout.classLine printout.message)
  have unfed := (Text.mem_splitOn _ row (single ▸ List.mem_singleton_self row)).1
  rw [single, Text.joined_singleton] at whole
  rw [whole] at unfed
  intro feed
  simp [classLine, feed] at unfed

/-- The lines of a longer message follow the one of the class. -/
theorem rows_of_feed {first rest : List Char} (unfed : '\n' ∉ first)
    (split : printout.message = first ++ '\n' :: rest) :
    printout.rows =
      (header :: printout.frames) ++ printout.classLine first :: rest.splitOn '\n' := by
  have unfedLine := printout.unfed_classLine unfed
  have whole : printout.classLine printout.message = printout.classLine first ++ '\n' :: rest := by
    simp [classLine, split]
  rw [rows, whole, List.splitOn_append_cons_self_of_not_mem unfedLine, List.cons_append]

/-- A printout with a message of one line is rendered. -/
theorem exists_renders (unfed : '\n' ∉ printout.message)
    (kept : ∀ frame ∈ printout.frames, frame.getLast? ≠ some '\r') :
    ∃ raised, printout.Renders raised := by
  have rows := printout.rows_of_unfed unfed
  obtain ⟨raised, parsed, kind, text⟩ := printout.exists_parsed kept rows nofun
  rw [← rows, joined_rows] at text
  refine ⟨raised, parsed, kind, ?_, printout.classLine printout.message, ?_⟩
  · rw [← text, String.ofList_toList]
  · have exception := printout.className.followed (' ' :: printout.message)
    rw [printout.lineChars_stream_of_kept kept, rows]
    exact lastAt_iff_split.mpr ⟨header :: printout.frames, [], rfl, rfl, ⟨_, exception⟩, nofun⟩

/-- Lines of a printout in front of others hold a header, and no later one than some last. -/
theorem exists_header {before after : List (List Char)}
    (split : printout.rows.map Text.unreturned = before ++ after) (filled : before ≠ []) :
    ∃ earlier head frames, before = earlier ++ head :: frames ∧ isHeader head = true ∧
      ∀ frame ∈ frames, isHeader frame = false := by
  have headed : header ∈ before := by
    cases before with
    | nil => exact absurd rfl filled
    | cons first before =>
      have kept : Text.unreturned header = header :=
        (Text.unreturned_eq_self_iff header).mpr (by decide)
      rw [rows, List.map_cons, kept, List.cons_append, List.cons.injEq] at split
      exact split.1 ▸ List.mem_cons_self
  obtain headless | last := silent_or_last isHeader before
  · exact absurd isHeader_header (Bool.eq_false_iff.mp (headless header headed))
  · exact last

/-- A printout that is rendered is read by its own lines, and the line of the class is the last. -/
theorem Renders.rows_eq {printout : Printout} {raised : Raised}
    (renders : printout.Renders raised) : printout.rows.length = printout.frames.length + 2 ∧
      printout.rows.map Text.unreturned = printout.rows := by
  obtain ⟨line, last⟩ := renders.untaken
  obtain ⟨before, after, split, place, told, silent⟩ := lastAt_iff_split.mp last
  have rows := printout.lineChars_stream.symm.trans split
  have filled : before ≠ [] := List.ne_nil_of_length_pos (by omega)
  obtain ⟨earlier, head, frames, rfl, begins, headless⟩ := printout.exists_header rows filled
  have parsed := parse_of_headed split begins headless ((tellsException_iff line).mpr told)
    fun other inside => (tellsException_eq_false_iff other).mpr (silent other inside)
  have text := renders.text
  rw [← Option.some.inj (parsed.symm.trans renders.parsed)] at text
  have shown : Text.joined (head :: (frames ++ [line])) = Text.joined printout.rows := by
    rw [joined_rows, ← Text.toList_joinLines, ← String.toList_ofList (l := printout.shown)]
    exact congrArg String.toList text
  have own : head :: (frames ++ [line]) <:+: (earlier ++ head :: frames) ++ line :: after :=
    ⟨earlier, after, by simp⟩
  have unfed : ∀ row ∈ head :: (frames ++ [line]), '\n' ∉ row := by
    intro row inside
    have falls := Text.fallsInto_iff.mpr (rfl : Text.lineChars printout.stream.toList = _)
    exact falls.unfed row (split ▸ own.subset inside)
  -- The lines that are shown are those of the printout, so nothing stands around them.
  have whole := Text.joined_inj unfed printout.unfed_rows (List.cons_ne_nil _ _)
    printout.rows_ne_nil shown
  have shownLength := congrArg List.length whole
  have readLength := congrArg List.length rows
  simp only [List.length_cons, List.length_append, List.length_map, List.length_nil]
    at shownLength readLength place
  have first : earlier = [] := List.length_eq_zero_iff.mp (by omega)
  have final : after = [] := List.length_eq_zero_iff.mp (by omega)
  subst first final
  refine ⟨by omega, ?_⟩
  rw [rows, ← whole]
  simp

/-- What an interpreter prints of an exception is shown as it was printed exactly if its message is
a single line (and no frame loses a carriage return at its end). Of a longer message whose later
lines tell of no exception, these lines are lost. -/
theorem printout_rendered_iff :
    ((∃ raised, printout.Renders raised) ↔
      '\n' ∉ printout.message ∧ ∀ frame ∈ printout.frames, frame.getLast? ≠ some '\r') ∧
    ∀ first rest, printout.message = first ++ '\n' :: rest → '\n' ∉ first →
      (∀ line ∈ rest.splitOn '\n', ¬∃ name, ExceptionLine name line) →
      (∀ frame ∈ printout.frames, frame.getLast? ≠ some '\r') →
      ∃ raised, parse printout.stream = some raised ∧
        raised.kind = String.ofList printout.name ∧
        (Failure.exception raised).text.toList ++ '\n' :: rest = printout.shown := by
  refine ⟨⟨?_, fun ⟨unfed, kept⟩ => printout.exists_renders unfed kept⟩, ?_⟩
  · rintro ⟨raised, renders⟩
    obtain ⟨length, whole⟩ := renders.rows_eq
    refine ⟨printout.unfed_of_length length, fun frame inside => ?_⟩
    have row : frame ∈ printout.rows :=
      List.mem_cons_of_mem _ (List.mem_append_left _ inside)
    rw [← Text.unreturned_eq_self_iff]
    exact List.map_inj_left.mp (whole.trans (List.map_id _).symm) frame row
  · intro first rest split unfed silent kept
    have rows := printout.rows_of_feed unfed split
    obtain ⟨raised, parsed, kind, text⟩ := printout.exists_parsed kept rows silent
    refine ⟨raised, parsed, kind, ?_⟩
    rw [text, ← joined_rows, rows, Text.joined_append _ (List.cons_ne_nil _ _),
      Text.joined_append _ (List.cons_ne_nil _ _), Text.joined_singleton,
      Text.joined_cons _ (List.splitOn_ne_nil _ _), Text.joined_splitOn, List.append_assoc]

/-- A printout with a message of two lines. -/
def continued : Printout where
  name := "ValueError".toList
  frames := ["  File \"<string>\", line 1, in <module>".toList]
  message := "first\nsecond".toList
  className := (isExceptionLine_iff.mpr (by decide) :
    ExceptionLine "ValueError".toList "ValueError".toList).className
  indented := List.forall_mem_singleton.mpr ⟨' ', _, rfl, by decide⟩
  unfed := List.forall_mem_singleton.mpr (by decide)
  unreturned := by decide

/-- The second line of the message is lost. -/
theorem continued_message_lost :
    parse continued.stream = some {
      kind := "ValueError"
      message := "first"
      traceback := some ("Traceback (most recent call last):\n" ++
        "  File \"<string>\", line 1, in <module>\nValueError: first") } ∧
    ¬∃ raised, continued.Renders raised := by
  have parsed : parse continued.stream = some {
      kind := "ValueError"
      message := "first"
      traceback := some ("Traceback (most recent call last):\n" ++
        "  File \"<string>\", line 1, in <module>\nValueError: first") } := by decide +kernel
  refine ⟨parsed, ?_⟩
  rintro ⟨raised, renders⟩
  cases Option.some.inj (parsed.symm.trans renders.parsed)
  exact absurd renders.text (by decide +kernel)

end Printout

end Scratchpad.Traceback
