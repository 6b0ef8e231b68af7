import Scratchpad.Script.Classes

/-!
# Targets and patterns at run time

Giving a value to a target: a name, a member of an object, or a pattern that takes a value apart.
-/
namespace Scratchpad.Script

open Scratchpad.Text (Units)

/-! ## Elements -/

/-- The element of an array in a row at a number. -/
def rowElement? (memory : Memory) (ref : Ref) (index : Float) : Option Value :=
  match (memory.object ref).nature with
  | .array items _ _ => if Decimal.isSmallNat index then items[index.toUInt64.toNat]? else none
  | _ => none

/-- The value of a property that is named by a value. -/
def getElement [Machine] (object key : Value) : Eval Value := do
  match object, key with
  | .object ref, .number index =>
    match ← Eval.view (rowElement? · ref index) with
    | some value => return value
    | none => getOf ref (← toKey key)
  | .undefined, _ | .null, _ =>
    let shown ← keyOfPrimitive (if key.isObject then .undefined else key)
    raiseRead object shown
  | _, _ => get object (← toKey key)

/-- Replace an element of an array in a row: whether there was one. -/
def setRowElement [Machine] (ref : Ref) (index : Float) (value : Value) : Eval Bool :=
  if Decimal.isSmallNat index then
    changeObject ref fun object =>
      match object with
      | { prototype, extensible, properties, nature := .array items length fixed } =>
        let position := index.toUInt64.toNat
        if h : position < items.size then
          (true, { prototype, extensible, properties,
                   nature := .array (items.set position value) length fixed })
        else (false, { prototype, extensible, properties, nature := .array items length fixed })
      | object => (false, object)
  else return false

/-- Assign a property that is named by a value. -/
def setElement [Machine] (object key value : Value) (strict : Bool) : Eval Unit := do
  let done ← match object, key with
    | .object ref, .number index => setRowElement ref index value
    | _, _ => pure false
  if !done then set object (← toKey key) value strict

/-! ## Members of the parent -/

/-- The object in which members of the parent are found. -/
def parentObject [Machine] (context : Context) : Eval Value := do
  match (← activation context).home with
  | some home => return Value.ofRef? (← prototypeOf home)
  | none => return .undefined

/-- The value of a member of the parent. -/
def getSuper [Machine] (context : Context) (key : Value) : Eval Value := do
  let this ← thisValue context
  match ← parentObject context with
  | .object parent => getFor parent (← toKey key) this
  | missing => raiseRead missing (← toKey key)

/-- Assign a member of the parent. -/
def setSuper [Machine] (context : Context) (key value : Value) : Eval Unit := do
  let this ← thisValue context
  match ← parentObject context with
  | .object parent =>
    let fault ← setFor parent (← toKey key) value this
    if context.strict then demand fault
  | missing => set missing (← toKey key) value true

/-! ## Copying -/

/-- Copy the own properties of an object that are seen, from a key on, except some. -/
def copyFrom [Machine] (source target : Ref) (except : List Key) : List Key → Eval Unit
  | [] => return ()
  | key :: rest => do
    if !except.contains key then
      match ← own? source key with
      | some slot => if slot.isEnumerable then createOrThrow target key (← getOf source key)
      | none => pure ()
    copyFrom source target except rest

/-- Copy the own properties of a value that are seen, except some. -/
def copyProperties [Machine] (source : Value) (target : Ref) (except : List Key) : Eval Unit := do
  if source.isMissing then return ()
  else
    let ref ← toObject source
    copyFrom ref target except (← ownKeys ref).toList

/-! ## Patterns -/

/-- Take the items of a pattern from a walk, from an item on; the flag says whether the walk came to
its end. -/
def assignItems [Machine] (context : Context) (fresh : Bool) (walk : Walk) :
    Bool → List Expr → Eval Bool
  | done, [] => return done
  | done, item :: rest => do
    match item with
    | .spread inner =>
      let left ← if done then pure #[] else walk.rest
      let left ← makeArray left
      Machine.assign context fresh inner left
      return true
    | _ =>
      let found ← if done then pure none else walk.step?
      let done := found.isNone
      match item with
      | .hole => pure ()
      | _ =>
        let give := Machine.assign context fresh item (found.getD .undefined)
        if done then give else walk.guard give
      assignItems context fresh walk done rest

/-- Take an iterable value apart. -/
def assignArray [Machine] (context : Context) (fresh : Bool) (items : List Expr) (value : Value) :
    Eval Unit := do
  let walk ← Walk.start value
  let done ← assignItems context fresh walk false items
  if !done then walk.close

/-- Take members of an object, from a member on; the keys of those before are given. -/
def assignMembers [Machine] (context : Context) (fresh : Bool) (value : Value) :
    List Key → List Member → Eval Unit
  | _, [] => return ()
  | taken, .mk kind name target :: rest => do
    match kind with
    | .spread =>
      let left ← makePlain
      copyProperties value left taken
      Machine.assign context fresh target (.object left)
    | _ =>
      let key ← memberKey context name
      Machine.assign context fresh target (← get value key)
      assignMembers context fresh value (key :: taken) rest

/-- Take an object apart. -/
def assignObject [Machine] (context : Context) (fresh : Bool) (members : List Member)
    (value : Value) : Eval Unit := do
  if value.isMissing then raiseType .notConvertible
  else assignMembers context fresh value [] members

/-- Give a value to a target. -/
def assignTarget [Machine] (context : Context) (fresh : Bool) (target : Expr) (value : Value) :
    Eval Unit := do
  match target with
  | .name name =>
    if fresh then initiateName context.environment name value else writeName context name value
  | .grouped inner => Machine.assign context fresh inner value
  | .member object name =>
    set (← Machine.expression context object) (.text name) value context.strict
  | .index object key =>
    let object ← Machine.expression context object
    setElement object (← Machine.expression context key) value context.strict
  | .privateMember object name =>
    let object ← Machine.expression context object
    setHidden object (← hiddenKey context name) value
  | .superMember key => setSuper context (← Machine.expression context key) value
  | .withDefault target initial =>
    let value ← if value.isUndefined then Machine.expression context initial else pure value
    Machine.assign context fresh target value
  | .arrayPattern items => assignArray context fresh items value
  | .objectPattern members => assignObject context fresh members value
  | _ => raise (.reference .invalidTarget)

end Scratchpad.Script
