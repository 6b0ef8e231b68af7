import Scratchpad.Proofs.Text.Lines
import Scratchpad.Proofs.Traceback.ExceptionLines

/-!
# The exception that an error stream tells of

The search runs backward over the lines of a stream, first for the line of the exception and then
for the header in front of it. Its result is stated by the places of these lines: the exception is
told by the last line that tells of one, and its traceback begins at the last header before that
line. Lines behind the exception are not looked at, and nothing before the header is.
-/
namespace Scratchpad.Traceback

/-- The last place in a list of lines at which something holds, with the line there. -/
structure LastAt (lines : List (List Char)) (holds : List Char → Prop) (place : Nat)
    (line : List Char) : Prop where
  there : lines[place]? = some line
  here : holds line
  last : ∀ later other, place < later → lines[later]? = some other → ¬holds other

/-- The header of a traceback stands at the front of a line. -/
def BeginsTraceback (line : List Char) : Prop :=
  "Traceback (most recent call last):".toList <+: line

/-- The traceback of an exception that is told at a place: the lines from the last header before
that place up to it, or none if there is no header before it. -/
inductive ShowsTraceback (lines : List (List Char)) (place : Nat) : Option String → Prop where
  | shown {start : Nat} {head : List Char} :
      LastAt (lines.take place) BeginsTraceback start head →
      ShowsTraceback lines place
        (some (Text.joinLines (((lines.take (place + 1)).drop start).map String.ofList)))
  | absent : (∀ line ∈ lines.take place, ¬BeginsTraceback line) → ShowsTraceback lines place none

/-- The exception of a class that is told at a place by a line. -/
structure ToldAt (lines : List (List Char)) (place : Nat) (name line : List Char)
    (raised : Raised) : Prop where
  /-- No later line tells of an exception. -/
  last : LastAt lines (fun line => ∃ name, ExceptionLine name line) place line
  /-- The line begins with the class. -/
  exception : ExceptionLine name line
  kind : raised.kind = String.ofList name
  message : SaysMessage name line raised.message.toList
  traceback : ShowsTraceback lines place raised.traceback

/-! ## Places and splits -/

/-- The last place of something splits the list: it holds of no line behind the place. -/
theorem lastAt_iff_split {lines : List (List Char)} {holds : List Char → Prop} {place : Nat}
    {line : List Char} : LastAt lines holds place line ↔
      ∃ before after, lines = before ++ line :: after ∧ before.length = place ∧ holds line ∧
        ∀ other ∈ after, ¬holds other := by
  constructor
  · rintro ⟨there, here, last⟩
    obtain ⟨inside, rfl⟩ := List.getElem?_eq_some_iff.mp there
    refine ⟨lines.take place, lines.drop (place + 1), ?_, ?_, here, ?_⟩
    · rw [← List.drop_eq_getElem_cons inside, List.take_append_drop]
    · rw [List.length_take]
      omega
    · intro other found
      obtain ⟨offset, reached⟩ := List.mem_iff_getElem?.mp found
      rw [List.getElem?_drop] at reached
      exact last _ other (by omega) reached
  · rintro ⟨before, after, rfl, rfl, here, last⟩
    refine ⟨by simp, here, ?_⟩
    intro later other beyond reached
    obtain ⟨offset, rfl⟩ : ∃ offset, later = before.length + (offset + 1) :=
      ⟨later - before.length - 1, by omega⟩
    rw [List.getElem?_append_right (Nat.le_add_right _ _), Nat.add_sub_cancel_left,
      List.getElem?_cons_succ] at reached
    exact last other (List.mem_of_getElem? reached)

/-- Something holds of no line of a list, or of a last one. -/
theorem silent_or_last (test : List Char → Bool) (lines : List (List Char)) :
    (∀ line ∈ lines, test line = false) ∨ ∃ before line after, lines = before ++ line :: after ∧
      test line = true ∧ ∀ other ∈ after, test other = false := by
  induction lines with
  | nil => exact .inl nofun
  | cons line lines ih =>
    obtain silent | ⟨before, found, after, rfl, holds, last⟩ := ih
    · cases here : test line with
      | true => exact .inr ⟨[], line, lines, rfl, here, silent⟩
      | false => exact .inl (List.forall_mem_cons.mpr ⟨here, silent⟩)
    · exact .inr ⟨line :: before, found, after, rfl, holds, last⟩

/-! ## The two searches -/

/-- The search passes over lines that tell of no exception. -/
theorem search_append {later : List (List Char)}
    (silent : ∀ line ∈ later, tellsException line = false) (earlier : List (List Char)) :
    search (later ++ earlier) = search earlier := by
  induction later with
  | nil => rfl
  | cons line later ih =>
    rw [List.forall_mem_cons] at silent
    rw [List.cons_append, search, silent.1, if_neg Bool.false_ne_true, ih silent.2]

/-- A stream without a line that tells of an exception tells of none. -/
theorem parse_of_silent {stream : String}
    (silent : ∀ line ∈ Text.lineChars stream.toList, tellsException line = false) :
    parse stream = none := by
  have backward := search_append (fun line found => silent line (List.mem_reverse.mp found)) []
  rw [List.append_nil] at backward
  exact backward

/-- The last line that tells of an exception decides what a stream tells. -/
theorem parse_of_split {stream : String} {before after : List (List Char)} {line : List Char}
    (split : Text.lineChars stream.toList = before ++ line :: after)
    (tells : tellsException line = true) (silent : ∀ other ∈ after, tellsException other = false) :
    parse stream = some (raisedBy line before.reverse) := by
  have reversed : (before ++ line :: after).reverse =
      after.reverse ++ line :: before.reverse := by simp
  rw [parse, split, reversed,
    search_append (fun other found => silent other (List.mem_reverse.mp found)), search,
    if_pos tells]

/-- A line is a header exactly if it begins as one. -/
theorem isHeader_iff (line : List Char) : isHeader line = true ↔ BeginsTraceback line :=
  List.isPrefixOf_iff_prefix

/-- The search for a header passes over other lines and keeps them. -/
theorem fromHeader_append {skipped : List (List Char)}
    (headless : ∀ line ∈ skipped, isHeader line = false) (earlier found : List (List Char)) :
    fromHeader (skipped ++ earlier) found = fromHeader earlier (skipped.reverse ++ found) := by
  induction skipped generalizing found with
  | nil => rfl
  | cons line skipped ih =>
    rw [List.forall_mem_cons] at headless
    rw [List.cons_append, fromHeader, headless.1, if_neg Bool.false_ne_true, ih headless.2]
    simp

/-- Without a header before a line there is no traceback. -/
theorem fromHeader_of_headless {before : List (List Char)}
    (headless : ∀ line ∈ before, isHeader line = false) (found : List (List Char)) :
    fromHeader before.reverse found = none := by
  have passed := fromHeader_append
    (fun line inside => headless line (List.mem_reverse.mp inside)) [] found
  rw [List.append_nil] at passed
  rw [passed, fromHeader]

/-- The traceback begins at the last header before a line. -/
theorem fromHeader_of_split (before : List (List Char)) {frames : List (List Char)}
    {head : List Char} (begins : isHeader head = true)
    (headless : ∀ line ∈ frames, isHeader line = false) (found : List (List Char)) :
    fromHeader (before ++ head :: frames).reverse found = some (head :: (frames ++ found)) := by
  have reversed : (before ++ head :: frames).reverse =
      frames.reverse ++ head :: before.reverse := by simp
  rw [reversed, fromHeader_append fun line inside => headless line (List.mem_reverse.mp inside),
    List.reverse_reverse, fromHeader, if_pos begins]

/-- An exception behind lines without a header has no traceback. -/
theorem raisedBy_of_headless {before : List (List Char)}
    (headless : ∀ line ∈ before, isHeader line = false) (line : List Char) :
    raisedBy line before.reverse = {
      kind := String.ofList (kindOf line)
      message := String.ofList (messageOf line)
      traceback := none } := by
  rw [raisedBy, fromHeader_of_headless headless]
  rfl

/-- An exception has the lines from the last header before it as its traceback. -/
theorem raisedBy_of_split (before : List (List Char)) {frames : List (List Char)}
    {head : List Char} (begins : isHeader head = true)
    (headless : ∀ line ∈ frames, isHeader line = false) (line : List Char) :
    raisedBy line (before ++ head :: frames).reverse = {
      kind := String.ofList (kindOf line)
      message := String.ofList (messageOf line)
      traceback := some (Text.joinLines ((head :: (frames ++ [line])).map String.ofList)) } := by
  rw [raisedBy, fromHeader_of_split before begins headless]
  rfl

/-- An exception that is told behind a header has the lines from the last header on as its
traceback. -/
theorem parse_of_headed {stream : String} {earlier frames after : List (List Char)}
    {head line : List Char}
    (split : Text.lineChars stream.toList = (earlier ++ head :: frames) ++ line :: after)
    (begins : isHeader head = true) (headless : ∀ frame ∈ frames, isHeader frame = false)
    (tells : tellsException line = true) (silent : ∀ other ∈ after, tellsException other = false) :
    parse stream = some {
      kind := String.ofList (kindOf line)
      message := String.ofList (messageOf line)
      traceback := some (Text.joinLines ((head :: (frames ++ [line])).map String.ofList)) } := by
  rw [parse_of_split split tells silent, raisedBy_of_split earlier begins headless]

/-! ## What is told -/

/-- The traceback that the search finds is the one that belongs to a line at its place. -/
theorem showsTraceback_iff {before after : List (List Char)} {line : List Char}
    {traceback : Option String} :
    ShowsTraceback (before ++ line :: after) before.length traceback ↔
      traceback = (raisedBy line before.reverse).traceback := by
  have upTo : (before ++ line :: after).take before.length = before := List.take_left
  have through : (before ++ line :: after).take (before.length + 1) = before ++ [line] := by
    rw [List.append_cons, List.take_left' (by simp)]
  have from_ {earlier frames : List (List Char)} {head : List Char}
      (split : before = earlier ++ head :: frames) :
      ((before ++ line :: after).take (before.length + 1)).drop earlier.length =
        head :: (frames ++ [line]) := by
    rw [through, split, List.append_assoc, List.drop_left, List.cons_append]
  constructor
  · intro shows
    cases shows with
    | shown lastHeader =>
      rw [upTo] at lastHeader
      obtain ⟨earlier, frames, split, rfl, begins, headless⟩ := lastAt_iff_split.mp lastHeader
      have found := fromHeader_of_split earlier ((isHeader_iff _).mpr begins)
        (fun other inside => Bool.eq_false_iff.mpr fun header =>
          headless other inside ((isHeader_iff other).mp header)) [line]
      rw [from_ split, raisedBy, split, found]
      rfl
    | absent headless =>
      rw [upTo] at headless
      have found := fromHeader_of_headless (fun other inside => Bool.eq_false_iff.mpr fun header =>
        headless other inside ((isHeader_iff other).mp header)) [line]
      rw [raisedBy, found]
      rfl
  · rintro rfl
    obtain headless | ⟨earlier, head, frames, split, begins, headless⟩ :=
      silent_or_last isHeader before
    · rw [raisedBy, fromHeader_of_headless headless]
      refine .absent ?_
      rw [upTo]
      intro other inside header
      exact Bool.eq_false_iff.mp (headless other inside) ((isHeader_iff other).mpr header)
    · have lastHeader : LastAt ((before ++ line :: after).take before.length) BeginsTraceback
          earlier.length head := by
        rw [upTo]
        refine lastAt_iff_split.mpr ⟨earlier, frames, split, rfl, (isHeader_iff head).mp begins, ?_⟩
        intro other inside header
        exact Bool.eq_false_iff.mp (headless other inside) ((isHeader_iff other).mpr header)
      have shown := ShowsTraceback.shown lastHeader
      rw [from_ split] at shown
      rw [raisedBy, split, fromHeader_of_split earlier begins headless, ← split]
      exact shown

/-- What the search reads off the last line that tells of an exception is told there. -/
theorem toldAt_raisedBy {before after : List (List Char)} {line name : List Char}
    (exception : ExceptionLine name line)
    (silent : ∀ other ∈ after, ¬∃ name, ExceptionLine name other) :
    ToldAt (before ++ line :: after) before.length name line (raisedBy line before.reverse) where
  last := lastAt_iff_split.mpr ⟨before, after, rfl, rfl, ⟨name, exception⟩, silent⟩
  exception := exception
  kind := congrArg String.ofList exception.kindOf
  message := by
    rw [exception.saysMessage]
    exact String.toList_ofList
  traceback := showsTraceback_iff.mpr rfl

/-- What is told at a place is what the search reads off the line there. -/
theorem ToldAt.eq_raisedBy {before after : List (List Char)} {line name : List Char}
    {raised : Raised} (told : ToldAt (before ++ line :: after) before.length name line raised) :
    raised = raisedBy line before.reverse := by
  obtain ⟨kind, message, traceback⟩ := raised
  have sameKind : kind = String.ofList (kindOf line) := by
    rw [told.exception.kindOf]
    exact told.kind
  have sameMessage : message = String.ofList (messageOf line) := by
    rw [← told.exception.saysMessage.mp told.message, String.ofList_toList]
  have sameTraceback : traceback = (raisedBy line before.reverse).traceback :=
    showsTraceback_iff.mp told.traceback
  rw [sameKind, sameMessage, sameTraceback]
  rfl

/-- A stream tells of the exception that is told at a place of its lines. -/
theorem ToldAt.parse {stream : String} {place : Nat} {name line : List Char} {raised : Raised}
    (told : ToldAt (Text.lineChars stream.toList) place name line raised) :
    parse stream = some raised := by
  obtain ⟨before, after, split, rfl, exception, silent⟩ := lastAt_iff_split.mp told.last
  rw [split] at told
  rw [told.eq_raisedBy]
  refine parse_of_split split ((tellsException_iff line).mpr exception) fun other inside => ?_
  exact Bool.eq_false_iff.mpr fun tells => silent other inside ((tellsException_iff other).mp tells)

/-- No line of a list tells of an exception, or one is told at the last place of such a line. -/
theorem silent_or_toldAt (lines : List (List Char)) :
    (∀ line ∈ lines, ¬∃ name, ExceptionLine name line) ∨
      ∃ raised place name line, ToldAt lines place name line raised := by
  have untold {line : List Char} (silent : tellsException line = false) :
      ¬∃ name, ExceptionLine name line := fun exception =>
    Bool.eq_false_iff.mp silent ((tellsException_iff line).mpr exception)
  obtain silent | ⟨before, line, after, rfl, tells, silent⟩ := silent_or_last tellsException lines
  · exact .inl fun line inside => untold (silent line inside)
  · obtain ⟨name, exception⟩ := (tellsException_iff line).mp tells
    exact .inr ⟨_, _, name, line,
      toldAt_raisedBy exception fun other inside => untold (silent other inside)⟩

/-- What the exception of a stream is, given the lines into which the stream falls. -/
structure TellsOfLast (stream : String) (lines : List (List Char)) : Prop where
  /-- A stream tells of no exception exactly if none of its lines does. -/
  silent : parse stream = none ↔ ∀ line ∈ lines, ¬∃ name, ExceptionLine name line
  /-- It tells of an exception exactly if this is told at the last place of one. -/
  told : ∀ raised, parse stream = some raised ↔ ∃ place name line,
    ToldAt lines place name line raised
  /-- Other lines behind the last exception make no difference. -/
  behind : ∀ (other : String) (before : List (List Char)) (line : List Char)
    (after others : List (List Char)), lines = before ++ line :: after →
    Text.FallsInto other.toList (before ++ line :: others) → (∃ name, ExceptionLine name line) →
    (∀ line ∈ after, ¬∃ name, ExceptionLine name line) →
    (∀ line ∈ others, ¬∃ name, ExceptionLine name line) → parse other = parse stream
  /-- Whatever was written earlier, a header with indented lines and a line of an exception behind
  it is that exception with just these lines as its traceback. -/
  printed : ∀ (earlier : List (List Char)) (head : List Char) (frames : List (List Char))
    (name text message : List Char) (after : List (List Char)),
    lines = earlier ++ head :: frames ++ (name ++ ':' :: text) :: after → BeginsTraceback head →
    (∀ frame ∈ frames, ∃ c rest, frame = c :: rest ∧ Text.isBlank c = true) →
    ExceptionLine name (name ++ ':' :: text) → Text.Trimmed text message →
    (∀ line ∈ after, ¬∃ name, ExceptionLine name line) →
    parse stream = some {
      kind := String.ofList name
      message := String.ofList message
      traceback := some (Text.joinLines
        ((head :: (frames ++ [name ++ ':' :: text])).map String.ofList)) }

/-- A line that begins with a blank is no header. -/
theorem not_isHeader_of_blank {c : Char} (blank : Text.isBlank c = true) (rest : List Char) :
    isHeader (c :: rest) = false := by
  refine Bool.eq_false_iff.mpr fun header => ?_
  obtain ⟨tail, same⟩ := (isHeader_iff _).mp header
  have first : c = 'T' := (List.cons.inj same).1.symm
  rw [first] at blank
  exact absurd blank (by decide)

/-- A stream tells of the exception that its last line of one tells, with the lines from the last
header before it as the traceback. -/
theorem parse_tells_of_last (stream : String) :
    ∃ lines, Text.FallsInto stream.toList lines ∧ TellsOfLast stream lines := by
  have untold {others : List (List Char)}
      (silent : ∀ line ∈ others, ¬∃ name, ExceptionLine name line) :
      ∀ line ∈ others, tellsException line = false := fun line inside =>
    Bool.eq_false_iff.mpr fun tells => silent line inside ((tellsException_iff line).mp tells)
  refine ⟨Text.lineChars stream.toList, Text.fallsInto_iff.mpr rfl, ?_, ?_, ?_, ?_⟩
  · constructor
    · intro unparsed
      obtain silent | ⟨raised, place, name, line, told⟩ :=
        silent_or_toldAt (Text.lineChars stream.toList)
      · exact silent
      · cases unparsed.symm.trans told.parse
    · exact fun silent => parse_of_silent (untold silent)
  · intro raised
    constructor
    · intro parsed
      obtain silent | ⟨found, place, name, line, told⟩ :=
        silent_or_toldAt (Text.lineChars stream.toList)
      · cases parsed.symm.trans (parse_of_silent (untold silent))
      · cases parsed.symm.trans told.parse
        exact ⟨place, name, line, told⟩
    · rintro ⟨place, name, line, told⟩
      exact told.parse
  · rintro other before line after others split falls ⟨name, exception⟩ silent silentOthers
    have tells := (tellsException_iff line).mpr ⟨name, exception⟩
    rw [parse_of_split split tells (untold silent),
      parse_of_split (Text.fallsInto_iff.mp falls).symm tells (untold silentOthers)]
  · intro earlier head frames name text message after split begins indented exception trimmed silent
    have tells := (tellsException_iff _).mpr ⟨name, exception⟩
    have headless : ∀ frame ∈ frames, isHeader frame = false := by
      intro frame inside
      obtain ⟨c, rest, rfl, blank⟩ := indented frame inside
      exact not_isHeader_of_blank blank rest
    have found := fromHeader_of_split earlier ((isHeader_iff head).mpr begins) headless
      [name ++ ':' :: text]
    have said := exception.saysMessage.mp (.behind trimmed)
    rw [parse_of_split split tells (untold silent), raisedBy, exception.kindOf, ← said, found]
    rfl

/-- A stream that tells of two exceptions, the later one raised while the earlier one was handled.
Its lines end with carriage returns, an indented line names a class, and prose follows. -/
def chainedStream : String :=
  "Traceback (most recent call last):\r\nKeyError: 1\r\n\r\n" ++
    "Traceback (most recent call last):\r\n  File \"a.py\", line 2\r\n    OSError: no\r\n" ++
    "App.Bad_Error:  late: \tvery \r\nerror: over\r\n"

/-- The later exception is told, with the frames of its own traceback. -/
theorem parse_tells_of_last_chained : parse chainedStream = some {
    kind := "App.Bad_Error"
    message := "late: \tvery"
    traceback := some ("Traceback (most recent call last):\n  File \"a.py\", line 2\n" ++
      "    OSError: no\nApp.Bad_Error:  late: \tvery ") } := by
  obtain ⟨lines, falls, tells⟩ := parse_tells_of_last chainedStream
  let earlier := ["Traceback (most recent call last):".toList, "KeyError: 1".toList, []]
  let head := "Traceback (most recent call last):".toList
  let frames := ["  File \"a.py\", line 2".toList, "    OSError: no".toList]
  let name := "App.Bad_Error".toList
  let text := "  late: \tvery ".toList
  have split :
      lines = earlier ++ head :: frames ++ (name ++ ':' :: text) :: ["error: over".toList] :=
    (Text.fallsInto_iff.mp falls).trans (by decide +kernel)
  refine (tells.printed earlier head frames name text "late: \tvery".toList _ split
    (List.prefix_refl _) ?_ ?_ ?_ ?_).trans (by decide +kernel)
  · intro frame inside
    obtain rfl | rfl : frame = "  File \"a.py\", line 2".toList ∨
        frame = "    OSError: no".toList := by
      simpa [frames] using inside
    · exact ⟨' ', _, rfl, rfl⟩
    · exact ⟨' ', _, rfl, rfl⟩
  · exact isExceptionLine_iff.mpr (by decide +kernel)
  · exact Text.trimmed_iff.mpr (by decide +kernel)
  · intro line inside told
    obtain rfl := List.mem_singleton.mp inside
    exact absurd ((tellsException_iff _).mpr told) (by decide +kernel)

end Scratchpad.Traceback
