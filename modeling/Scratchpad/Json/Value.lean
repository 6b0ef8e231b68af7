/-!
# JSON values

A value keeps its members in the order of the text, duplicates included. As a table an object has
one entry for each name, which is that of the last member: a later member replaces an earlier one.
-/
namespace Scratchpad.Json

/-- A JSON value; a number is kept as it was written. -/
inductive Value where
  | null
  | boolean (value : Bool)
  | number (literal : List Char)
  | text (value : String)
  | array (items : List Value)
  | object (members : List (String × Value))
deriving Inhabited

/-- A table with one more entry, in the place of the entry that its name had. -/
def putEntry (entry : String × Value) : List (String × Value) → List (String × Value)
  | [] => [entry]
  | first :: rest => if first.1 = entry.1 then entry :: rest else first :: putEntry entry rest

/-- The table that members come to, put into it in their order. -/
def table (members : List (String × Value)) : List (String × Value) :=
  members.foldl (fun entries member => putEntry member entries) []

/-- The string that a value is, if it is one. -/
def Value.string? : Value → Option String
  | .text value => some value
  | _ => none

end Scratchpad.Json
