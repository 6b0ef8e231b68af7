import Scratchpad.Script.Library.Arguments

/-!
# Promises

A run ends before anything that waits for a promise goes on. So a promise is never seen to be
settled, and what is left of its class is what happens at once: that functions are called, and that
new promises come out.
-/
namespace Scratchpad.Script

/-- A function that settles a promise. -/
def makeSettler [Machine] (arity : Nat) : Eval Value := do
  return .object (← allocate
    { prototype := some (Intrinsic.prototype .function).ref
      properties := functionProperties arity .empty
      nature := .native (.promiseMethod .settle) })

/-- Do a step whose fault would only settle a promise. -/
def settling [Machine] (step : Eval Unit) : Eval Unit := Eval.orElseThrown step fun _ => return ()

/-- Make a promise by its constructor. -/
def constructPromise [Machine] (invocation : Invocation) : Eval Value := do
  requireNew invocation
  requireCallable invocation.first
  let promise ← makeFor invocation .promise .promise
  let resolve ← makeSettler 1
  let reject ← makeSettler 1
  settling do
    let _ ← Machine.call invocation.first .undefined #[resolve, reject]
  return .object promise

/-- Whether a value is a promise. -/
def isPromise [Machine] (value : Value) : Eval Bool :=
  .view fun memory =>
    match value with
    | .object ref => ((memory.object ref).nature matches .promise)
    | _ => false

/-- Carry out a function of the constructor of promises. -/
def runPromiseFunction [Machine] (function : PromiseFunction) (invocation : Invocation) :
    Eval Value := do
  let constructor ← requireObject invocation.this
  match function with
  | .resolve =>
    if ← isPromise invocation.first then
      let maker ← get invocation.first .constructor
      if maker.strictEq (.object constructor) then return invocation.first else makePromise
    else makePromise
  | .reject => makePromise
  | .all | .allSettled | .any | .race =>
    settling do
      let _ ← valuesOf invocation.first
    makePromise
  | .withResolvers =>
    let promise ← makePromise
    let resolve ← makeSettler 1
    let reject ← makeSettler 1
    makeRecord [("promise", promise), ("resolve", resolve), ("reject", reject)]

/-- Carry out a method of promises. -/
def runPromiseMethod [Machine] (method : PromiseMethod) (invocation : Invocation) :
    Eval Value := do
  match method with
  | .then =>
    if ← isPromise invocation.this then makePromise else raiseType (.wrongReceiver "Promise")
  | .catch => invoke invocation.this (.ofString "then") #[.undefined, invocation.first]
  | .finally =>
    let _ ← requireObject invocation.this
    invoke invocation.this (.ofString "then") #[invocation.first, invocation.first]
  | .settle => return .undefined

end Scratchpad.Script
