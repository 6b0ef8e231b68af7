import Scratchpad.Script.Calls

/-!
# Classes at run time

Making a class: its constructor and prototype, its methods, and what its constructor adds to every
new object. Private names are made anew each time.
-/
namespace Scratchpad.Script

open Scratchpad.Text (Units)

/-! ## Private names -/

/-- The name under which a private name is bound. -/
def hiddenBinding (name : Units) : Units := Units.ofString "#" ++ name

/-- The key that a private name stands for. -/
def hiddenKey [Machine] (context : Context) (name : Units) : Eval Key := do
  let bound := hiddenBinding name
  match ← findName context bound with
  | some (.binding environment position) =>
    match (← bindingAt environment position).value with
    | .number place => return .hidden place.toUInt64.toNat
    | _ => raiseUndefined bound
  | _ => raiseUndefined bound

/-- Make private names and bind them. -/
def bindHidden [Machine] (environment : EnvironmentRef) : List Units → Eval Unit
  | [] => return ()
  | name :: rest => do
    let place ← Eval.change fun memory =>
      (memory.hidden.size, { memory with hidden := memory.hidden.push name })
    initiateName environment (hiddenBinding name) (.ofNat place)
    bindHidden environment rest

/-- The private member of an object. -/
def hiddenSlot [Machine] (value : Value) (key : Key) : Eval (Ref × Slot) := do
  match value with
  | .object ref =>
    match ← own? ref key with
    | some slot => return (ref, slot)
    | none => raiseType (.hiddenMissing (← Eval.view (shownKey · key)))
  | _ => raiseType .notObject

/-- The value of a private member of an object. -/
def getHidden [Machine] (value : Value) (key : Key) : Eval Value := do
  let (_, slot) ← hiddenSlot value key
  slot.read value

/-- Assign a private member of an object. -/
def setHidden [Machine] (target : Value) (key : Key) (value : Value) : Eval Unit := do
  match ← hiddenSlot target key with
  | (ref, .data _ true _ _) => updateObject ref (·.put key (.data value true false false))
  | (_, .data _ false _ _) => demand (some (← readOnly key))
  | (_, .accessor _ (some setter) _ _) =>
    let _ ← Machine.call (.object setter) target #[value]
  | (_, .accessor _ none _ _) => raiseType .noSetter

/-! ## Members -/

/-- The key that the name of a member gives. -/
def memberKey [Machine] (context : Context) (name : Expr) : Eval Key := do
  match name with
  | .text text => return .text text
  | .hidden name => hiddenKey context name
  | _ => toKey (← Machine.expression context name)

/-- The name of a member that is a function. -/
def memberFunctionName [Machine] (mark : String) (key : Key) : Eval Units :=
  .view fun memory =>
    match key with
    | .hidden place =>
      Units.ofString (mark ++ "#") ++ memory.hidden[place]?.getD .empty
    | _ => functionName memory mark key

/-- A property with one more function beside the one that it may have. -/
def withAccessor (getter : Bool) (function : Ref) (enumerable configurable : Bool) :
    Option Slot → Slot
  | some (.accessor get set _ _) =>
    if getter then .accessor (some function) set enumerable configurable
    else .accessor get (some function) enumerable configurable
  | _ =>
    if getter then .accessor (some function) none enumerable configurable
    else .accessor none (some function) enumerable configurable

/-- Put a method, getter or setter into an object. -/
def putMethod [Machine] (context : Context) (target : Ref) (kind : MemberKind) (key : Key)
    (place : Nat) (enumerable : Bool) : Eval Unit := do
  let mark := match kind with
    | .getter => "get "
    | .setter => "set "
    | _ => ""
  let function ← makeFunctionNamed context place (some target) (← memberFunctionName mark key)
  match kind with
  | .getter | .setter =>
    updateObject target fun object =>
      object.put key
        (withAccessor (kind = .getter) function enumerable true (object.own? key))
  | _ =>
    let fault ← defineSlot target key
      { value := some (.object function), writable := some true, enumerable := some enumerable
        configurable := some true }
    demand fault

/-- What a class prescribes for its objects and for itself. -/
structure Prescription where
  /-- What every new object gets. -/
  fields : Array (Key × (Option Ref ⊕ Slot)) := #[]
  /-- Private methods of the class itself. -/
  statics : Array (Key × (Option Ref ⊕ Slot)) := #[]
  /-- Fields and blocks of the class itself; a block has no key. -/
  blocks : Array (Option Key × Option Ref) := #[]

/-- A list of private members with one more function. -/
def addPrivate (members : Array (Key × (Option Ref ⊕ Slot))) (kind : MemberKind) (key : Key)
    (function : Ref) : Array (Key × (Option Ref ⊕ Slot)) :=
  match kind with
  | .getter | .setter =>
    match members.findIdx? (·.1 == key) with
    | some position =>
      members.modify position fun (key, content) =>
        match content with
        | .inr slot => (key, .inr (withAccessor (kind = .getter) function false false (some slot)))
        | content => (key, content)
    | none => members.push (key, .inr (withAccessor (kind = .getter) function false false none))
  | _ => members.push (key, .inr (.data (.object function) false false false))

/-- Make the function of a private method or of a field. -/
def makeMember [Machine] (context : Context) (target : Ref) (mark : String) (key : Key)
    (place : Nat) : Eval Ref := do
  makeFunctionNamed context place (some target) (← memberFunctionName mark key)

/-- Evaluate a member of a class. -/
def addMember [Machine] (context : Context) (constructor prototype : Ref)
    (found : Prescription) (member : ClassMember) : Eval Prescription := do
  let target := if member.isStatic then constructor else prototype
  if member.isBlock then
    let block ← match member.function with
      | some place => some <$> makeMember context target "" (.text .empty) place
      | none => pure none
    return { found with blocks := found.blocks.push (none, block) }
  else
    let key ← memberKey context member.name
    match member.kind with
    | .value =>
      let value ← match member.function with
        | some place => some <$> makeMember context target "" (.text .empty) place
        | none => pure none
      if member.isStatic then return { found with blocks := found.blocks.push (some key, value) }
      else return { found with fields := found.fields.push (key, .inl value) }
    | kind =>
      let place := member.function.getD 0
      match key with
      | .hidden _ =>
        let mark := match kind with
          | .getter => "get "
          | .setter => "set "
          | _ => ""
        let function ← makeMember context target mark key place
        if member.isStatic then
          return { found with statics := addPrivate found.statics kind key function }
        else return { found with fields := addPrivate found.fields kind key function }
      | _ =>
        putMethod context target kind key place false
        return found

/-- Evaluate the members of a class. -/
def addMembers [Machine] (context : Context) (constructor prototype : Ref) :
    List ClassMember → Prescription → Eval Prescription
  | [], found => return found
  | member :: rest, found => do
    addMembers context constructor prototype rest
      (← addMember context constructor prototype found member)

/-- Run the fields and blocks of a class itself. -/
def runBlocks [Machine] (constructor : Ref) : List (Option Key × Option Ref) → Eval Unit
  | [] => return ()
  | (key, block) :: rest => do
    match key with
    | some key => addFields constructor [(key, .inl block)]
    | none =>
      match block with
      | some block => let _ ← Machine.call (.object block) (.object constructor) #[]
      | none => pure ()
    runBlocks constructor rest

/-! ## Classes -/

/-- The prototypes of a class and of its objects, which its parent decides. -/
def parentsOf [Machine] (context : Context) (parent : Option Expr) :
    Eval (Ref × Option Ref) := do
  let ordinary := (Intrinsic.prototype .function).ref
  match parent with
  | none => return (ordinary, some (Intrinsic.prototype .object).ref)
  | some parent =>
    match ← Machine.expression context parent with
    | .null => return (ordinary, none)
    | .object ref =>
      if !(← isConstructor (.object ref)) then raiseType .badParent
      else
        match ← getOf ref .prototype with
        | .object prototype => return (ref, some prototype)
        | .null => return (ref, none)
        | _ => raiseType .badParentPrototype
    | _ => raiseType .badParent

/-- The fields with private methods before the others, as every object gets them first. -/
def methodsFirst (fields : Array (Key × (Option Ref ⊕ Slot))) :
    Array (Key × (Option Ref ⊕ Slot)) :=
  let isMethod (field : Key × (Option Ref ⊕ Slot)) : Bool := match field.2 with
    | .inr _ => true
    | .inl _ => false
  fields.filter isMethod ++ fields.filter (!isMethod ·)

/-- Make a class. -/
def makeClass [Machine] (context : Context) (place : Nat) : Eval Value := do
  let made ← Eval.view (·.classAt place)
  let names := if made.bound then [{ name := made.name, constant := true : Lexical }] else []
  let environment ← enter
    { parent := some context.environment, bindings := lexicalBindings names }
  let inner := { context with environment, strict := true, labels := [] }
  bindHidden environment made.hiddenNames
  let (classPrototype, objectPrototype) ← parentsOf inner made.parent
  let prototype ← allocate { prototype := objectPrototype }
  let constructor ← makeFunctionNamed inner made.constructor (some prototype) made.name
  updateObject constructor fun object =>
    { object with prototype := some classPrototype }.put .prototype (.constant (.object prototype))
  updateObject prototype (·.put .constructor (.quiet (.object constructor)))
  let found ← addMembers inner constructor prototype made.members {}
  updateObject constructor fun object =>
    match object with
    | { prototype, extensible, properties, nature := .closure closure } =>
      { prototype, extensible, properties,
        nature := .closure { closure with fields := methodsFirst found.fields } }
    | object => object
  if made.bound then initiateName environment made.name (.object constructor)
  addFields constructor found.statics.toList
  runBlocks constructor found.blocks.toList
  return .object constructor

end Scratchpad.Script
