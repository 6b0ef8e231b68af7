import Scratchpad.Proofs.Text.Joining
import Scratchpad.Proofs.Traceback.ClassNames
import Scratchpad.Proofs.Traceback.LastException

/-!
# Exceptions of classes in modules

A class is written with the path of its module in front. Such a path is a dotted name whose last
part names an exception, but the line that begins with it tells of one only if the path itself
begins with a capital, as few modules do: `qualified_class_told_iff`. Any other line is passed over,
and an earlier exception is told in its place.
-/
namespace Scratchpad.Traceback

/-- A character of an identifier: an ASCII letter or digit, or an underscore. -/
def IsIdentifierChar (c : Char) : Prop :=
  ('A' ≤ c ∧ c ≤ 'Z') ∨ ('a' ≤ c ∧ c ≤ 'z') ∨ ('0' ≤ c ∧ c ≤ '9') ∨ c = '_'

instance : DecidablePred IsIdentifierChar := fun _ => inferInstanceAs (Decidable (_ ∨ _))

/-- An identifier: characters of one, of which the first is not a digit. -/
structure IsIdentifier (part : List Char) : Prop where
  begins : ∃ first rest, part = first :: rest ∧ ¬('0' ≤ first ∧ first ≤ '9')
  characters : ∀ c ∈ part, IsIdentifierChar c

/-- An identifier that begins with a capital and ends as the names of exceptions do. -/
structure IsExceptionIdentifier (part : List Char) : Prop extends IsIdentifier part where
  capital : ∃ first rest, part = first :: rest ∧ 'A' ≤ first ∧ first ≤ 'Z'
  ending : "Error".toList <:+ part ∨ "Exception".toList <:+ part ∨ "Warning".toList <:+ part

/-- The path of an exception class: its name with any number of modules in front. -/
inductive QualifiedClass : List Char → Prop where
  | alone {part : List Char} : IsExceptionIdentifier part → QualifiedClass part
  | within {outer path : List Char} : IsIdentifier outer → QualifiedClass path →
      QualifiedClass (outer ++ '.' :: path)

/-- The exception of a class that the last line of a stream tells with a message. -/
structure ToldLast (stream : String) (before : List (List Char)) (path text : List Char)
    (raised : Raised) : Prop where
  parsed : parse stream = some raised
  kind : raised.kind = String.ofList path
  message : Text.Trimmed text raised.message.toList
  /-- It is the last line that tells of it, and no earlier one. -/
  last : LastAt (before ++ [path ++ ':' :: text]) (fun line => ∃ name, ExceptionLine name line)
    before.length (path ++ ':' :: text)

/-! ## Paths as names -/

/-- A character of an identifier may stand in a dotted name. -/
theorem IsIdentifierChar.isNameChar {c : Char} (character : IsIdentifierChar c) : IsNameChar c := by
  obtain upper | lower | digit | rfl := character
  · exact .inl upper
  · exact .inr (.inl lower)
  · exact .inr (.inr (.inl digit))
  · exact .inr (.inr (.inr (.inl rfl)))

/-- There is no point in an identifier. -/
theorem IsIdentifier.unpointed {part : List Char} (identifier : IsIdentifier part) :
    '.' ∉ part := by
  intro point
  exact absurd (identifier.characters '.' point) (by decide)

/-- What stands in front of a path does not change its last part. -/
theorem LastPart.within {path part : List Char} (last : LastPart path part) (outer : List Char) :
    LastPart (outer ++ '.' :: path) part := by
  cases last with
  | whole free => exact .after free
  | @after inner part free =>
    have moved : LastPart ((outer ++ '.' :: inner) ++ '.' :: part) part := .after free
    rwa [List.append_assoc] at moved

namespace QualifiedClass

variable {path : List Char}

/-- A path is a dotted name. -/
theorem characters (qualified : QualifiedClass path) : ∀ c ∈ path, IsNameChar c := by
  induction qualified with
  | alone exception => exact fun c found => (exception.characters c found).isNameChar
  | within identifier _ ih =>
    rw [List.forall_mem_append, List.forall_mem_cons]
    exact ⟨fun c found => (identifier.characters c found).isNameChar,
      .inr (.inr (.inr (.inr rfl))), ih⟩

/-- The last part of a path names an exception. -/
theorem named (qualified : QualifiedClass path) :
    ∃ part, LastPart path part ∧ NamesException part := by
  induction qualified with
  | @alone part exception =>
    exact ⟨part, .whole exception.unpointed, .inl exception.ending⟩
  | @within outer path identifier _ ih =>
    obtain ⟨part, last, names⟩ := ih
    exact ⟨part, last.within outer, names⟩

/-- A path is the name of a class exactly if it begins as one. -/
theorem className_iff (qualified : QualifiedClass path) : ClassName path ↔ BeginsAsClass path := by
  constructor
  · exact ClassName.toBeginsAsClass
  · intro begins
    exact ⟨begins, qualified.characters, qualified.named⟩

/-- A line that begins with a path tells of no exception but that of the path. -/
theorem exists_exceptionLine_iff (qualified : QualifiedClass path) (message : List Char) :
    (∃ name, ExceptionLine name (path ++ ':' :: message)) ↔ ClassName path := by
  constructor
  · rintro ⟨name, exception⟩
    have leading := leadingName_append qualified.characters (.inr ⟨message, rfl⟩)
    have same : name = path :=
      (leadingName_iff.mp exception.leading).trans (leadingName_iff.mp leading).symm
    exact same ▸ exception.className
  · intro className
    exact ⟨path, className.followed message⟩

end QualifiedClass

/-! ## The last line of a stream -/

/-- The exception of a stream is searched in its lines. -/
theorem parse_of_falls {stream : String} {lines : List (List Char)}
    (falls : Text.FallsInto stream.toList lines) : parse stream = search lines.reverse := by
  rw [parse, Text.fallsInto_iff.mp falls]

/-- A last line that tells of no exception leaves it to the lines before it. -/
theorem parse_of_passed {stream earlier : String} {before : List (List Char)} {line : List Char}
    (falls : Text.FallsInto stream.toList (before ++ [line]))
    (front : Text.FallsInto earlier.toList before) (silent : ¬∃ name, ExceptionLine name line) :
    parse stream = parse earlier := by
  have passed : ∀ other ∈ [line], tellsException other = false :=
    List.forall_mem_singleton.mpr ((tellsException_eq_false_iff line).mpr silent)
  have reversed : (before ++ [line]).reverse = [line] ++ before.reverse := by simp
  rw [parse_of_falls falls, parse_of_falls front, reversed, search_append passed]

/-- The exception of a class in a module is told by the last line of a stream exactly if its path
begins as a class does. Otherwise the stream tells what it told without that line. -/
theorem qualified_class_told_iff {stream : String} {before : List (List Char)}
    {path message : List Char}
    (falls : Text.FallsInto stream.toList (before ++ [path ++ ':' :: message]))
    (qualified : QualifiedClass path) :
    ((∃ raised, ToldLast stream before path message raised) ↔ BeginsAsClass path) ∧
    (¬BeginsAsClass path → ∀ earlier : String, Text.FallsInto earlier.toList before →
      parse stream = parse earlier) := by
  rw [← qualified.className_iff]
  refine ⟨⟨?_, ?_⟩, ?_⟩
  · rintro ⟨raised, told⟩
    exact (qualified.exists_exceptionLine_iff message).mp told.last.here
  · intro className
    have exception := className.followed message
    have last : LastAt (before ++ [path ++ ':' :: message])
        (fun line => ∃ name, ExceptionLine name line) before.length (path ++ ':' :: message) :=
      lastAt_iff_split.mpr ⟨before, [], rfl, rfl, ⟨path, exception⟩, nofun⟩
    have parsed := parse_of_split (Text.fallsInto_iff.mp falls).symm
      ((tellsException_iff _).mpr ⟨path, exception⟩) nofun
    refine ⟨_, parsed, congrArg String.ofList exception.kindOf, ?_, last⟩
    have said := exception.saysMessage.mp (.behind (Text.trimmed_trimChars message))
    rw [raisedBy, String.toList_ofList, ← said]
    exact Text.trimmed_trimChars message
  · intro unnamed earlier front
    refine parse_of_passed falls front ?_
    rwa [qualified.exists_exceptionLine_iff]

/-- The lines of two exceptions, the later one of a class whose path begins with a capital. -/
def capitalLines : List (List Char) :=
  ["Traceback (most recent call last):".toList, "KeyError: 1".toList, [],
    "Traceback (most recent call last):".toList, "  File \"a.py\", line 2".toList,
    "App.db_2.Query_Error:  late \r".toList]

/-- The later exception is told by the last line. -/
theorem qualified_class_told_capital :
    ∃ before path message raised,
      Text.FallsInto (String.ofList (Text.printed capitalLines)).toList
        (before ++ [path ++ ':' :: message]) ∧
      QualifiedClass path ∧
      ToldLast (String.ofList (Text.printed capitalLines)) before path message raised ∧
      raised.kind = "App.db_2.Query_Error" ∧ raised.message = "late" := by
  let before := capitalLines.dropLast
  let path := "App".toList ++ '.' :: ("db_2".toList ++ '.' :: "Query_Error".toList)
  let message := "  late ".toList
  have read : capitalLines.map Text.unreturned = before ++ [path ++ ':' :: message] := by
    decide +kernel
  have falls := Text.fallsInto_ofList_printed (by decide +kernel) read
  have qualified : QualifiedClass path :=
    .within ⟨⟨'A', _, rfl, by decide⟩, by simp [IsIdentifierChar]⟩ <|
      .within ⟨⟨'d', _, rfl, by decide⟩, by simp [IsIdentifierChar]⟩ <|
      .alone ⟨⟨⟨'Q', _, rfl, by decide⟩, by simp [IsIdentifierChar]⟩, ⟨'Q', _, rfl, by decide⟩,
        .inl (by decide +kernel)⟩
  obtain ⟨raised, told⟩ := (qualified_class_told_iff falls qualified).1.mpr
    ⟨⟨'A', _, rfl, by decide⟩, by decide +kernel⟩
  have trimmed := told.message.eq_trimChars
  refine ⟨before, path, message, raised, falls, qualified, told,
    told.kind.trans (by decide +kernel), ?_⟩
  rw [← String.ofList_toList (s := raised.message), trimmed]
  decide +kernel

/-- The lines of two exceptions, the later one of a class in a module with a small letter. -/
def decodeLines : List (List Char) :=
  ["Traceback (most recent call last):".toList,
    "  File \"<string>\", line 2, in <module>".toList, "KeyError: 'a'".toList, [],
    "During handling of the above exception, another exception occurred:".toList, [],
    "Traceback (most recent call last):".toList,
    "  File \"<string>\", line 4, in <module>".toList,
    "json.decoder.JSONDecodeError: Expecting value".toList]

/-- The later exception is passed over, and the earlier one is told in its place. -/
theorem lowercase_module_passed_over :
    ∃ before path message,
      Text.FallsInto (String.ofList (Text.printed decodeLines)).toList
        (before ++ [path ++ ':' :: message]) ∧
      QualifiedClass path ∧ path = "json.decoder.JSONDecodeError".toList ∧
      parse (String.ofList (Text.printed decodeLines)) = some {
        kind := "KeyError"
        message := "'a'"
        traceback := some ("Traceback (most recent call last):\n" ++
          "  File \"<string>\", line 2, in <module>\nKeyError: 'a'") } := by
  let before := decodeLines.dropLast
  let path := "json".toList ++ '.' :: ("decoder".toList ++ '.' :: "JSONDecodeError".toList)
  let message := " Expecting value".toList
  have read : decodeLines.map Text.unreturned = before ++ [path ++ ':' :: message] := by
    decide +kernel
  have falls := Text.fallsInto_ofList_printed (by decide +kernel) read
  have qualified : QualifiedClass path :=
    .within ⟨⟨'j', _, rfl, by decide⟩, by simp [IsIdentifierChar]⟩ <|
      .within ⟨⟨'d', _, rfl, by decide⟩, by simp [IsIdentifierChar]⟩ <|
      .alone ⟨⟨⟨'J', _, rfl, by decide⟩, by simp [IsIdentifierChar]⟩, ⟨'J', _, rfl, by decide⟩,
        .inl (by decide +kernel)⟩
  refine ⟨before, path, message, falls, qualified, by decide +kernel, ?_⟩
  exact (parse_of_falls falls).trans (by decide +kernel)

end Scratchpad.Traceback
