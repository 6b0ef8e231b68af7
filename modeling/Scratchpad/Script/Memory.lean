import Scratchpad.Script.Object
import Scratchpad.Script.Syntax

/-!
# The memory of a run

Everything that a script can change: its objects, the environments in which its names are bound, its
symbols, and what is left of its budgets. Memory also keeps the functions that were read, as a
script may read more of them while it runs.
-/
namespace Scratchpad.Script

open Scratchpad.Text (Units)

/-- What may be done with a bound name. -/
inductive BindingState where
  /-- The declaration was not reached yet. -/
  | uninitialized
  | mutable
  | constant
  /-- An assignment does nothing. -/
  | silent
deriving DecidableEq, Repr, Inhabited

/-- A bound name. -/
structure Binding where
  name : Units
  value : Value
  state : BindingState
  /-- Whether the name is that of a constant once its declaration was reached. -/
  constant : Bool := false
deriving Inhabited

/-- What a function was called with, its arguments apart. -/
structure Activation where
  /-- The value of `this`, absent until the constructor of the parent was called. -/
  this : Option Value
  function : Option Ref
  newTarget : Option Ref
  home : Option Ref
deriving Inhabited

/-- The names bound by a block, a function or an object. -/
structure Environment where
  parent : Option EnvironmentRef
  bindings : Array Binding := #[]
  /-- The object whose properties are names here. -/
  object : Option Ref := none
  activation : Option Activation := none
  /-- Whether variables of the code inside are declared here. -/
  holdsVariables : Bool := false
deriving Inhabited

/-- Everything that a script can change. -/
structure Memory where
  objects : Array Object
  environments : Array Environment
  /-- The descriptions of the symbols. -/
  symbols : Array (Option Units)
  /-- The symbols that are found by a name. -/
  shared : Array (Units × SymbolRef) := #[]
  /-- The private names, with what they are called. -/
  hidden : Array Units := #[]
  /-- The functions and classes that were read. -/
  table : Table
  /-- The number of times that an environment was kept for later. -/
  captures : Nat := 0
  /-- What is left of the budget of calls and turns. -/
  ticks : Nat
  /-- The number of bytes that may be used, unlimited if absent. -/
  limit : Option Nat := none
  /-- The number of bytes used since the last census. -/
  used : Nat := 0
  /-- The value of the last statement of a script that is evaluated for its value. -/
  completion : Value := .undefined
  /-- The number of objects that every script finds. -/
  standard : Nat := 0
  /-- The state of the source of random numbers. -/
  seed : UInt64 := 88172645463325252
deriving Inhabited

namespace Memory

/-- The object at a place. -/
def object (memory : Memory) (ref : Ref) : Object := memory.objects[ref.place]?.getD default

/-- The environment at a place. -/
def environment (memory : Memory) (ref : EnvironmentRef) : Environment :=
  memory.environments[ref.place]?.getD default

/-- The memory with an object changed. -/
def modify (memory : Memory) (ref : Ref) (change : Object → Object) : Memory :=
  { memory with objects := memory.objects.modify ref.place change }

/-- The memory with an environment changed. -/
def modifyEnvironment (memory : Memory) (ref : EnvironmentRef)
    (change : Environment → Environment) : Memory :=
  { memory with environments := memory.environments.modify ref.place change }

/-- A function of the table. -/
def function (memory : Memory) (place : Nat) : Function :=
  memory.table.functions[place]?.getD default

/-- A class of the table. -/
def classAt (memory : Memory) (place : Nat) : Class := memory.table.classes[place]?.getD default

/-- The description of a symbol. -/
def description (memory : Memory) (symbol : SymbolRef) : Option Units :=
  (memory.symbols[symbol.place]?).getD none

/-! ## Properties along the chain of prototypes -/

/-- The first property of a name among an object and its prototypes, at most `fuel` of them, and
the object that has it. -/
def lookupFrom (memory : Memory) (key : Key) : Nat → Ref → Option (Ref × Slot)
  | 0, _ => none
  | fuel + 1, ref =>
    let object := memory.object ref
    match object.own? key with
    | some slot => some (ref, slot)
    | none =>
      match object.prototype with
      | some prototype => lookupFrom memory key fuel prototype
      | none => none

/-- The property of a name that an object has or inherits, and the object that has it. -/
def lookup (memory : Memory) (ref : Ref) (key : Key) : Option (Ref × Slot) :=
  memory.lookupFrom key memory.objects.size ref

/-- The value of a property that an object has or inherits, undefined if a function gives it. -/
def valueOf (memory : Memory) (ref : Ref) (key : Key) : Value :=
  match memory.lookup ref key with
  | some (_, .data value _ _ _) => value
  | _ => .undefined

/-- Whether an object is among another one and its prototypes, at most `fuel` of them. -/
def descendsFrom (memory : Memory) (ancestor : Ref) : Nat → Ref → Bool
  | 0, _ => false
  | fuel + 1, ref =>
    ref == ancestor ||
      match (memory.object ref).prototype with
      | some prototype => descendsFrom memory ancestor fuel prototype
      | none => false

/-- Whether a value can be called. -/
def isCallable (memory : Memory) : Value → Bool
  | .object ref => (memory.object ref).isCallable
  | _ => false

/-- Whether an object can make new ones, its bound target being at most `fuel` objects away. -/
def constructsWithin (memory : Memory) : Nat → Ref → Bool
  | 0, _ => false
  | fuel + 1, ref =>
    match (memory.object ref).nature with
    | .closure closure =>
      let function := memory.function closure.function
      match function.kind with
      | .ordinary => !function.asynchronous && !function.generator
      | .baseConstructor | .derivedConstructor => true
      | _ => false
    | .native (.constructor _) | .native .asyncFunction => true
    | .bound target _ _ => constructsWithin memory fuel target
    | _ => false

/-- Whether a value can make new objects. -/
def isConstructor (memory : Memory) : Value → Bool
  | .object ref => memory.constructsWithin memory.objects.size ref
  | _ => false

/-! ## Names -/

/-- Where a name is bound. -/
inductive Place where
  | binding (environment : EnvironmentRef) (position : Nat)
  /-- A property of an object, which is `this` of a call by the name if the flag says so. -/
  | property (object : Ref) (isReceiver : Bool)

/-- Whether an object keeps a name from being found among its properties. -/
def hides (memory : Memory) (object : Ref) (name : Units) : Bool :=
  match memory.valueOf object WellKnown.unscopables.key with
  | .object list => (memory.valueOf list (.text name)).truth
  | _ => false

/-- Where a name is bound, searched for in at most `fuel` environments. -/
def findFrom (memory : Memory) (name : Units) : Nat → EnvironmentRef → Option Place
  | 0, _ => none
  | fuel + 1, ref =>
    let environment := memory.environment ref
    match environment.bindings.findIdx? (·.name == name) with
    | some position => some (.binding ref position)
    | none =>
      let found : Option Place := match environment.object with
        | some object =>
          let isGlobal := environment.parent.isNone
          if (memory.lookup object (.text name)).isSome &&
              (isGlobal || !memory.hides object name) then
            some (.property object (!isGlobal))
          else none
        | none => none
      match found, environment.parent with
      | some place, _ => some place
      | none, some parent => findFrom memory name fuel parent
      | none, none => none

/-- Where a name is bound, seen from an environment. -/
def find (memory : Memory) (environment : EnvironmentRef) (name : Units) : Option Place :=
  memory.findFrom name (environment.place + 1) environment

/-! ## Budgets -/

/-- The number of bytes that a value takes besides its place. -/
def valueSize : Value → Nat
  | .text text => text.size
  | .bigint value => value.natAbs.log2 / 8
  | _ => 0

/-- The number of bytes of an object without its contents. -/
def objectSize : Nat := 72

/-- The number of bytes of a place for a value. -/
def slotSize : Nat := 16

/-- The number of bytes of an object. -/
def sizeOf (object : Object) : Nat :=
  let listed := object.properties.foldl (fun size property =>
    size + 2 * slotSize + match property.2 with
      | .data value _ _ _ => valueSize value
      | .accessor .. => 0) objectSize
  match object.nature with
  | .array items _ _ => items.foldl (fun size value => size + slotSize + valueSize value) listed
  | .map entries => entries.foldl (fun size entry =>
      size + 3 * slotSize + (entry.map fun (key, value) => valueSize key + valueSize value).getD 0)
        listed
  | .set members => members.foldl (fun size member =>
      size + 3 * slotSize + (member.map valueSize).getD 0) listed
  | .wrapper value => listed + valueSize value
  | _ => listed

/-- The number of bytes of everything that memory holds beyond the standard objects. -/
def census (memory : Memory) : Nat :=
  let objects := (memory.objects.extract memory.standard memory.objects.size).foldl
    (fun size object => size + sizeOf object) 0
  memory.environments.foldl (fun size environment =>
    environment.bindings.foldl (fun size binding => size + slotSize + valueSize binding.value) size)
    objects

end Memory

end Scratchpad.Script
