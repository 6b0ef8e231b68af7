import Scratchpad.Script.Library.Arguments
import Scratchpad.Script.Operator

/-!
# Sorting

Sorting by a comparison that may itself be a function of the script. Equal values keep their order,
and `undefined` comes last without being compared.
-/
namespace Scratchpad.Script

open Scratchpad.Text (Units)

/-- Put two sorted lists together, behind what was put together before in reverse, in at most `fuel`
steps. -/
def mergeWith [Machine] {α : Type} (before : α → α → Eval Bool) :
    Nat → List α → List α → List α → Eval (List α)
  | _, [], second, found => return found.reverse ++ second
  | _, first, [], found => return found.reverse ++ first
  | 0, first, second, found => return found.reverse ++ first ++ second
  | fuel + 1, x :: first, y :: second, found => do
    tick
    if ← before y x then mergeWith before fuel (x :: first) second (y :: found)
    else mergeWith before fuel first (y :: second) (x :: found)

/-- Sort a list by halves; the fuel bounds how often it is halved. -/
def sortWith [Machine] {α : Type} (before : α → α → Eval Bool) : Nat → List α → Eval (List α)
  | 0, list => return list
  | fuel + 1, list => do
    if list.length ≤ 1 then return list
    else
      let half := (list.length + 1) / 2
      let first ← sortWith before fuel (list.take half)
      let second ← sortWith before fuel (list.drop half)
      mergeWith before list.length first second []

/-- Sort a list. -/
def sortList [Machine] {α : Type} (before : α → α → Eval Bool) (list : List α) : Eval (List α) :=
  sortWith before list.length list

/-- Whether a comparison function puts one value in front of another. -/
def comesBefore [Machine] (comparison first second : Value) : Eval Bool := do
  return (← toNumber (← Machine.call comparison .undefined #[first, second])) < 0.0

/-- Sort values by a comparison function, or by their strings if there is none. -/
def sortValues [Machine] (comparison : Value) (values : Array Value) : Eval (Array Value) := do
  let missing := values.filter Value.isUndefined
  let present := (values.filter (!·.isUndefined)).toList
  let sorted ← if comparison.isUndefined then do
      let keyed ← present.mapM fun value => do return (← toText value, value)
      let sorted ← sortList (fun first second => return first.1.less second.1) keyed
      pure (sorted.map (·.2))
    else sortList (comesBefore comparison) present
  return sorted.toArray ++ missing

end Scratchpad.Script
