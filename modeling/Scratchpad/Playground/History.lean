import Scratchpad.Playground.Panel

/-!
# Histories of a panel

A history lists the operations on a panel, each begun when the one before it had ended, and the
latest comes first. What a later run has to do with a history is read off it by recursion: the
language selected last, the code as it was typed, and the number of Python runs.
-/
namespace Scratchpad.Panel

/-- One operation on a panel. -/
inductive Step where
  | select (language : Language)
  | setCode (code : String)
  | typeText (text : String)
  | mount
  /-- Run the code; a script runs on a thread with a number. -/
  | run (thread : Nat)
deriving DecidableEq, Repr

variable {σ : Type} [Runner σ]

/-- The panel after one operation. -/
def step (panel : Panel σ) : Step → Panel σ
  | .select language => panel.select language
  | .setCode code => panel.setCode code
  | .typeText text => panel.typeText text
  | .mount => panel.mount
  | .run thread => (panel.run thread).2

/-- The panel after a history. -/
def after (panel : Panel σ) : List Step → Panel σ
  | [] => panel
  | latest :: earlier => (panel.after earlier).step latest

/-- The language selected last, or the one selected at first. -/
def lastSelected : List Step → Language
  | [] => .initial
  | .select language :: _ => language
  | _ :: earlier => lastSelected earlier

/-- The code as it was put and typed. -/
def typed : List Step → String
  | [] => ""
  | .setCode code :: _ => code
  | .typeText text :: earlier => typed earlier ++ text
  | _ :: earlier => typed earlier

/-- The number of runs of a Python snippet. -/
def pythonRuns : List Step → Nat
  | [] => 0
  | .run _ :: earlier =>
    if lastSelected earlier = .python then pythonRuns earlier + 1 else pythonRuns earlier
  | _ :: earlier => pythonRuns earlier

end Scratchpad.Panel
