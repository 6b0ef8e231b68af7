import Scratchpad.Script.Library.Addresses
import Scratchpad.Script.Library.Arrays
import Scratchpad.Script.Library.Collections
import Scratchpad.Script.Library.Errors
import Scratchpad.Script.Library.Functions
import Scratchpad.Script.Library.Iterators
import Scratchpad.Script.Library.JsonValues
import Scratchpad.Script.Library.Mathematics
import Scratchpad.Script.Library.Objects
import Scratchpad.Script.Library.Promises
import Scratchpad.Script.Library.Texts

/-!
# Native functions at run time

What every native function does when it is called, or asked for a new object.
-/
namespace Scratchpad.Script

open Scratchpad.Text (Units)

/-- Make an iterator by the constructor of a class that extends it. -/
def constructIterator [Machine] (invocation : Invocation) : Eval Value := do
  match invocation.newTarget with
  | none => raiseType .constructorWithoutNew
  | some newTarget =>
    if newTarget = (Intrinsic.constructor .iterator).ref then raiseType .abstractClass
    else return .object (← makeFor invocation .iterator .plain)

/-- Carry out the constructor of a class. -/
def runConstructor [Machine] (of : StandardClass) (invocation : Invocation) : Eval Value :=
  match of with
  | .object => constructObject invocation
  | .function => constructFunction invocation false false
  | .array => constructArray invocation
  | .text => constructText invocation
  | .number => constructNumber invocation
  | .boolean => constructBoolean invocation
  | .symbol => constructSymbol invocation
  | .bigint => constructBigint invocation
  | .map => constructMap invocation
  | .set => constructSet invocation
  | .weakMap | .weakSet => constructWeak of invocation
  | .weakRef => constructWeakRef invocation
  | .promise => constructPromise invocation
  | .iterator => constructIterator invocation
  | .error kind => constructError kind invocation

/-- Carry out a function that belongs to no object. -/
def runGlobalFunction [Machine] (function : GlobalFunction) (invocation : Invocation) :
    Eval Value := do
  let first := invocation.first
  match function with
  | .parseInt =>
    let text ← toText first
    return .number (Numeral.parseInt text (← toInt32 invocation.second).toInt)
  | .parseFloat => return .number (Numeral.parseFloat (← toText first))
  | .isNaN => return .boolean (← toNumber first).isNaN
  | .isFinite => return .boolean (isFiniteNumber (← toNumber first))
  | .eval =>
    match first with
    | .text source => evaluateGlobally source
    | _ => return first
  | .encodeUri => Address.run Address.staysInWhole first
  | .encodeUriComponent => Address.run Address.staysInPart first
  | .decodeUri => Address.runDecode Address.isReserved first
  | .decodeUriComponent => Address.runDecode (fun _ => false) first
  | .escape => makeText (Address.escapeUnits (← toText first))
  | .unescape => makeText (Address.unescapeUnits (← toText first))
  | .queueMicrotask =>
    requireCallable first
    return .undefined

/-- Carry out a getter or setter of a standard object. -/
def runAccessor [Machine] (accessor : Accessor) (invocation : Invocation) : Eval Value :=
  match accessor with
  | .getPrototype => getPrototypeProperty invocation.this
  | .setPrototype => setPrototypeProperty invocation.this invocation.first
  | .species => return invocation.this
  | .mapSize => mapSize invocation.this
  | .setSize => setSize invocation.this
  | .description => symbolDescription invocation.this

/-- Carry out a native function. -/
def runNative [Machine] (native : Native) (invocation : Invocation) : Eval Value :=
  match native with
  | .console level => Machine.print level invocation.arguments
  | .constructor of => runConstructor of invocation
  | .asyncFunction => constructFunction invocation true false
  | .global function => runGlobalFunction function invocation
  | .object function => runObjectFunction function invocation
  | .objectMethod method => runObjectMethod method invocation
  | .functionMethod method => runFunctionMethod method invocation
  | .array function => runArrayFunction function invocation
  | .arrayMethod method => runArrayMethod method invocation
  | .text function => runTextFunction function invocation
  | .textMethod method => runTextMethod method invocation
  | .number function => runNumberFunction function invocation
  | .numberMethod method => runNumberMethod method invocation
  | .booleanMethod method => runBooleanMethod method invocation
  | .symbol function => runSymbolFunction function invocation
  | .symbolMethod method => runSymbolMethod method invocation
  | .bigint function => runBigintFunction function invocation
  | .bigintMethod method => runBigintMethod method invocation
  | .math function => runMathFunction function invocation
  | .json function => runJsonFunction function invocation
  | .errorText => errorText invocation.this
  | .captureStack => captureStack invocation.first
  | .mapMethod method => runMapMethod method invocation
  | .mapGroup => groupIntoMap invocation
  | .setMethod method => runSetMethod method invocation
  | .weakMethod method => runWeakMethod method invocation
  | .promise function => runPromiseFunction function invocation
  | .promiseMethod method => runPromiseMethod method invocation
  | .iteratorMethod method => runIteratorMethod method invocation
  | .iteratorFrom => iteratorFrom invocation.first
  | .iteratorSelf => return invocation.this
  | .resume kind how => resumeIterator invocation kind how
  | .reflect function => runReflectFunction function invocation
  | .accessor accessor => runAccessor accessor invocation
  | .thrower => raiseType .forbiddenAccess

end Scratchpad.Script
