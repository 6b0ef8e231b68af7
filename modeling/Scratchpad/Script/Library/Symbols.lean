import Scratchpad.Script.Library.Numbers

/-!
# Symbols

Making symbols, finding the ones that are shared by a name, and showing them.
-/
namespace Scratchpad.Script

open Scratchpad.Text (Units)

/-- Make a symbol. -/
def makeSymbol [Machine] (description : Option Units) : Eval SymbolRef :=
  .change fun memory =>
    (⟨memory.symbols.size⟩, { memory with symbols := memory.symbols.push description })

/-- Make a symbol by its constructor. -/
def constructSymbol [Machine] (invocation : Invocation) : Eval Value := do
  if invocation.newTarget.isSome then raiseType .notConstructor
  else
    let description ← match invocation.first with
      | .undefined => pure none
      | value => some <$> toText value
    return .symbol (← makeSymbol description)

/-- The symbol that is shared by a name. -/
def sharedSymbol [Machine] (name : Units) : Eval SymbolRef := do
  match ← Eval.view fun memory => memory.shared.find? (·.1 == name) with
  | some (_, symbol) => return symbol
  | none =>
    let symbol ← makeSymbol (some name)
    .update fun memory => { memory with shared := memory.shared.push (name, symbol) }
    return symbol

/-- Carry out a function of the constructor of symbols. -/
def runSymbolFunction [Machine] (function : SymbolFunction) (invocation : Invocation) :
    Eval Value := do
  match function with
  | .shared => return .symbol (← sharedSymbol (← toText invocation.first))
  | .keyFor =>
    match invocation.first with
    | .symbol symbol =>
      match ← Eval.view fun memory => memory.shared.find? (·.2 == symbol) with
      | some (name, _) => return .text name
      | none => return .undefined
    | _ => raiseType .notSymbol

/-- A symbol as it is shown. -/
def symbolText [Machine] (symbol : SymbolRef) : Eval Units := do
  let description ← Eval.view (·.description symbol)
  return Units.ofString "Symbol(" ++ description.getD .empty ++ Units.ofString ")"

/-- The symbol that a method is called on. -/
def thisSymbol [Machine] (value : Value) : Eval SymbolRef := do
  match ← unwrapped value with
  | .symbol symbol => return symbol
  | _ => raiseType .notSymbol

/-- Carry out a method of symbols. -/
def runSymbolMethod [Machine] (method : SymbolMethod) (invocation : Invocation) : Eval Value := do
  let symbol ← thisSymbol invocation.this
  match method with
  | .toString => return .text (← symbolText symbol)
  | .valueOf | .toPrimitive => return .symbol symbol

/-- The description of a symbol as a property of it. -/
def symbolDescription [Machine] (this : Value) : Eval Value := do
  match ← Eval.view (·.description (← thisSymbol this)) with
  | some description => return .text description
  | none => return .undefined

end Scratchpad.Script
