import Scratchpad.Text.Blank
import Scratchpad.Text.Lines

/-!
# Exceptions in an error stream

An uncaught exception is read off the text that an interpreter wrote to its error stream: the last
line that names an exception class gives the class and the message, and the nearest earlier header
of a traceback begins the text that is shown.
-/
namespace Scratchpad

/-- `PlaygroundError::PythonException` — an uncaught exception. -/
structure Raised where
  /-- The class, with the module path that was written. -/
  kind : String
  /-- What follows the class. -/
  message : String
  /-- The traceback with the line of the exception, if a header was found. -/
  traceback : Option String
deriving DecidableEq, Repr, Inhabited

namespace Raised

/-- The exception as it was printed: its traceback, else its class and its message. -/
def text (raised : Raised) : String :=
  match raised.traceback with
  | some traceback => traceback
  | none => if raised.message = "" then raised.kind else raised.kind ++ ": " ++ raised.message

end Raised

namespace Traceback

/-- The line that begins a traceback. -/
def header : List Char := "Traceback (most recent call last):".toList

/-- Whether a character may stand in a dotted class name. -/
def isNameChar (c : Char) : Bool := c.isAlphanum || c == '_' || c == '.'

/-- The dotted name at the front of a line. -/
def nameOf (line : List Char) : List Char := line.takeWhile isNameChar

/-- The part of a dotted name after its last point. -/
def lastPart (name : List Char) : List Char := (name.reverse.takeWhile (· != '.')).reverse

/-- `error::EXCEPTION_SUFFIXES` — the endings of exception classes. -/
def endings : List (List Char) := ["Error".toList, "Exception".toList, "Warning".toList]

/-- `error::BARE_EXCEPTIONS` — the exception classes with an ending of their own. -/
def bareNames : List (List Char) :=
  ["KeyboardInterrupt".toList, "SystemExit".toList, "StopIteration".toList,
    "GeneratorExit".toList]

/-- Whether a name without a module path is that of an exception class. -/
def namesException (name : List Char) : Bool :=
  endings.any (·.isSuffixOf name) || bareNames.contains name

/-- Whether a line begins with an ASCII capital. -/
def startsUpper : List Char → Bool
  | c :: _ => c.isUpper
  | [] => false

/-- Whether what follows a name ends it: a colon or the end of the line. -/
def endsName : List Char → Bool
  | [] => true
  | c :: _ => c == ':'

/-- `error::looks_like_exception` — whether a line names an exception class. -/
def isExceptionLine (line : List Char) : Bool :=
  startsUpper line && !"Traceback".toList.isPrefixOf line &&
    endsName (line.dropWhile isNameChar) && namesException (lastPart (nameOf line))

/-- Whether a line begins with a blank. -/
def isIndented : List Char → Bool
  | c :: _ => Text.isBlank c
  | [] => false

/-- Whether a line tells of an exception: it is not indented, and it names a class. -/
def tellsException (line : List Char) : Bool := !isIndented line && isExceptionLine line

/-- Whether a line is the header of a traceback. -/
def isHeader (line : List Char) : Bool := header.isPrefixOf line

/-- The class before the first colon of a line. -/
def kindOf (line : List Char) : List Char := Text.trimChars (line.takeWhile (· != ':'))

/-- The message after the first colon of a line. -/
def messageOf (line : List Char) : List Char :=
  Text.trimChars ((line.dropWhile (· != ':')).drop 1)

/-- The lines from the nearest header on, given the lines before an exception line in reverse
order and the lines that follow them. -/
def fromHeader : List (List Char) → List (List Char) → Option (List (List Char))
  | [], _ => none
  | line :: earlier, found =>
    if isHeader line then some (line :: found) else fromHeader earlier (line :: found)

/-- The exception that a line tells of behind the lines before it, which are in reverse order. -/
def raisedBy (line : List Char) (earlier : List (List Char)) : Raised where
  kind := String.ofList (kindOf line)
  message := String.ofList (messageOf line)
  traceback := (fromHeader earlier [line]).map fun found =>
    Text.joinLines (found.map String.ofList)

/-- The exception that the first line of a reversed list tells of, among those that tell of one. -/
def search : List (List Char) → Option Raised
  | [] => none
  | line :: earlier => if tellsException line then some (raisedBy line earlier) else search earlier

/-- `error::parse_python_exception` — the uncaught exception that an error stream tells of. -/
def parse (stream : String) : Option Raised := search (Text.lineChars stream.toList).reverse

end Traceback

end Scratchpad
