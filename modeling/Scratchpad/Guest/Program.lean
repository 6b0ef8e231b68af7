import Scratchpad.Guest.Limiter

/-!
# Guest programs

What a guest does that its host can observe: the memory and the table that it starts with, the
writes and growth requests of its run in order, and how it ends. What it computes between them does
not matter here.
-/
namespace Scratchpad.Guest

/-- A captured stream. -/
inductive Stream where
  | output
  | error
deriving DecidableEq, Repr

/-- One observable action of a guest. -/
inductive Action where
  /-- Write bytes to a stream. -/
  | write (stream : Stream) (bytes : List UInt8)
  /-- Ask for a number of further pages of memory; a required growth that is refused ends the run
  with a trap, and any other is ignored. -/
  | growMemory (pages : Nat) (required : Bool)
  /-- Ask for a number of further table elements, which may be required as well. -/
  | growTable (elements : Nat) (required : Bool)
deriving DecidableEq, Repr

/-- How a guest ends that did everything before. -/
inductive Ending where
  /-- Its entry function returns. -/
  | returns
  /-- It exits with a status. -/
  | exits (status : Int)
  /-- It traps. -/
  | traps
  /-- It never ends. -/
  | spins
deriving DecidableEq, Repr, Inhabited

/-- The entry function of a guest. -/
inductive Entry where
  /-- There is one of the right type. -/
  | proper
  /-- There is none. -/
  | missing
  /-- There is one of another type. -/
  | mistyped
deriving DecidableEq, Repr, Inhabited

/-- A guest program. -/
structure Program where
  /-- Pages of linear memory at the start, if it has a memory. -/
  memory : Option Nat
  /-- Table elements at the start, if it has a table. -/
  table : Option Nat
  /-- Whether it needs an import that nobody provides. -/
  unresolved : Bool
  entry : Entry
  /-- What it does when it is run with arguments. -/
  actions : List String → List Action
  ending : Ending

/-- The number of bytes of a page. -/
def pageSize : Nat := 65536

/-- The largest number of pages that a memory can have. -/
def maxPages : Nat := 65536

/-- A program with neither memory nor entry function. -/
def Program.bare : Program where
  memory := none
  table := none
  unresolved := false
  entry := .missing
  actions _ := []
  ending := .returns

end Scratchpad.Guest
