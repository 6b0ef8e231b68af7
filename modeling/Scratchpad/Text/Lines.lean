/-!
# Lines of a text

A line ends with a line feed, and a carriage return before that feed belongs to the ending. What
follows the last line feed is a line of its own unless it is empty, and keeps a carriage return.
-/
namespace Scratchpad.Text

/-- A reversed line without the carriage return of its ending. -/
def dropReturn : List Char → List Char
  | '\r' :: line => line
  | line => line

/-- The lines of a text that follows the reversed beginning of a line. -/
def linesFrom (line : List Char) : List Char → List (List Char)
  | [] => if line.isEmpty then [] else [line.reverse]
  | '\n' :: rest => (dropReturn line).reverse :: linesFrom [] rest
  | c :: rest => linesFrom (c :: line) rest

/-- The lines of a text, without their endings. -/
def lineChars (text : List Char) : List (List Char) := linesFrom [] text

/-- The lines of a string, without their endings. -/
def lines (text : String) : List String := (lineChars text.toList).map String.ofList

/-- Lines joined by line feeds, with none at the end. -/
def joinLines (lines : List String) : String := String.intercalate "\n" lines

end Scratchpad.Text
