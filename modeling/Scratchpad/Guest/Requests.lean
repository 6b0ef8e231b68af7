import Scratchpad.Guest.Run

/-!
# Requests of a guest

What a program asks of its limiter before it begins, and what the actions of its guest ask then. A
growth by nothing asks for nothing; any other one asks for the size that would come of it, and the
limiter is what it was with these requests on record.
-/
namespace Scratchpad.Guest

namespace Program

/-- What a program asks of the limiter before its guest begins; an import that nobody provides comes
before that. -/
def firstRequests (program : Program) : List Growth :=
  if program.unresolved then []
  else
    program.memory.toList.map (fun pages => .memory (pages * pageSize)) ++
      program.table.toList.map .table

/-- The first memory and table are on record when the guest begins. -/
theorem instantiate_eq {program : Program} (resolved : program.unresolved = false)
    (settings : InterpreterSettings) : program.instantiate settings =
      ({ maxMemory := settings.maxMemory } : Limiter).recordAll program.firstRequests := by
  rw [instantiate, firstRequests, resolved]
  cases program.memory <;> cases program.table <;> rfl

/-- A guest begins exactly if all imports are provided, nothing was refused, and there is an entry
function of the right type. -/
theorem opened_eq_ok {program : Program} {settings : InterpreterSettings} {opened : State} :
    program.opened settings = .ok opened ↔ program.unresolved = false ∧
      (program.instantiate settings).tripped = false ∧ program.entry = .proper ∧
      opened = {
        limiter := program.instantiate settings
        pages := program.memory.getD 0
        elements := program.table.getD 0 } := by
  rw [Program.opened]
  cases program.unresolved with
  | true => simp
  | false =>
    cases untripped : (program.instantiate settings).tripped with
    | true => simp [untripped]
    | false =>
      cases program.entry with
      | missing => simp [untripped]
      | mistyped => simp [untripped]
      | proper =>
        simp only [untripped, Bool.false_eq_true, if_false, Except.ok.injEq, true_and]
        exact eq_comm

/-- The limiter of a guest that is about to begin has refused nothing. -/
theorem opened_untripped {program : Program} {settings : InterpreterSettings} {opened : State}
    (started : program.opened settings = .ok opened) : opened.limiter.tripped = false := by
  obtain ⟨-, untripped, -, rfl⟩ := opened_eq_ok.mp started
  exact untripped

/-- The limiter of a guest that is about to begin has the ceiling of the settings. -/
theorem opened_maxMemory {program : Program} {settings : InterpreterSettings} {opened : State}
    (started : program.opened settings = .ok opened) :
    opened.limiter.maxMemory = settings.maxMemory := by
  obtain ⟨resolved, -, -, rfl⟩ := opened_eq_ok.mp started
  rw [instantiate_eq resolved, Limiter.maxMemory_recordAll]

/-- The limiter of a guest that is about to begin grants what the settings allow. -/
theorem opened_grants {program : Program} {settings : InterpreterSettings} {opened : State}
    (started : program.opened settings = .ok opened) :
    opened.limiter.grants = ({ maxMemory := settings.maxMemory } : Limiter).grants :=
  Limiter.grants_congr (opened_maxMemory started)

end Program

namespace State

/-- What an action asks of the limiter. -/
def request? (state : State) : Action → Option Growth
  | .write _ _ => none
  | .growMemory pages _ =>
    if pages = 0 then none else some (.memory ((state.pages + pages) * pageSize))
  | .growTable elements _ =>
    if elements = 0 then none else some (.table (state.elements + elements))

/-- What actions ask of the limiter, up to the one that stops the guest. -/
def requests (state : State) : List Action → List Growth
  | [] => []
  | action :: rest =>
    (state.request? action).toList ++
      match state.perform action with
      | (true, next) => next.requests rest
      | (false, _) => []

/-- A guest that goes on after its first action does the rest from there. -/
theorem performAll_goesOn {state : State} {action : Action}
    (goesOn : (state.perform action).1 = true) (rest : List Action) :
    state.performAll (action :: rest) = (state.perform action).2.performAll rest := by
  rw [performAll]
  cases performed : state.perform action with
  | mk granted next =>
    rw [performed] at goesOn
    cases goesOn
    rfl

/-- A guest that is stopped by its first action does nothing else. -/
theorem performAll_stopped {state : State} {action : Action}
    (stopped : (state.perform action).1 = false) (rest : List Action) :
    state.performAll (action :: rest) = (false, (state.perform action).2) := by
  rw [performAll]
  cases performed : state.perform action with
  | mk granted next =>
    rw [performed] at stopped
    cases stopped
    rfl

/-- A guest that comes to the end of its actions went on after the first and did the rest. -/
theorem goesOn_cons {state : State} {action : Action} {rest : List Action}
    (goesOn : (state.performAll (action :: rest)).1 = true) :
    (state.perform action).1 = true ∧ ((state.perform action).2.performAll rest).1 = true := by
  cases first : (state.perform action).1 with
  | false =>
    rw [performAll_stopped first] at goesOn
    cases goesOn
  | true =>
    rw [performAll_goesOn first] at goesOn
    exact ⟨rfl, goesOn⟩

/-- A guest that goes on after its first action asks what the rest asks from there. -/
theorem requests_goesOn {state : State} {action : Action}
    (goesOn : (state.perform action).1 = true) (rest : List Action) :
    state.requests (action :: rest) =
      (state.request? action).toList ++ (state.perform action).2.requests rest := by
  rw [requests]
  cases performed : state.perform action with
  | mk granted next =>
    rw [performed] at goesOn
    cases goesOn
    rfl

/-- A guest that is stopped by its first action asks nothing else. -/
theorem requests_stopped {state : State} {action : Action}
    (stopped : (state.perform action).1 = false) (rest : List Action) :
    state.requests (action :: rest) = (state.request? action).toList := by
  rw [requests]
  cases performed : state.perform action with
  | mk granted next =>
    rw [performed] at stopped
    cases stopped
    exact List.append_nil _

/-- A growth of the memory leaves its request on record. -/
theorem limiter_growMemory (state : State) {pages : Nat} (more : pages ≠ 0) :
    (state.growMemory pages).2.limiter =
      state.limiter.record (.memory ((state.pages + pages) * pageSize)) := by
  simp only [growMemory, if_neg more]
  split <;> rfl

/-- A growth of the table leaves its request on record. -/
theorem limiter_growTable (state : State) {elements : Nat} (more : elements ≠ 0) :
    (state.growTable elements).2.limiter =
      state.limiter.record (.table (state.elements + elements)) := by
  simp only [growTable, if_neg more]
  split <;> rfl

/-- An action leaves its request on record. -/
theorem limiter_perform (state : State) (action : Action) :
    (state.perform action).2.limiter =
      state.limiter.recordAll (state.request? action).toList := by
  cases action with
  | write stream bytes => cases stream <;> rfl
  | growMemory pages required =>
    change (state.growMemory pages).2.limiter = _
    by_cases none : pages = 0
    · simp only [growMemory, request?, if_pos none]
      rfl
    · have asked : state.request? (.growMemory pages required) =
          some (.memory ((state.pages + pages) * pageSize)) := if_neg none
      rw [limiter_growMemory state none, asked, Limiter.recordAll_toList]
  | growTable elements required =>
    change (state.growTable elements).2.limiter = _
    by_cases none : elements = 0
    · simp only [growTable, request?, if_pos none]
      rfl
    · have asked : state.request? (.growTable elements required) =
          some (.table (state.elements + elements)) := if_neg none
      rw [limiter_growTable state none, asked, Limiter.recordAll_toList]

/-- Actions leave their requests on record. -/
theorem limiter_performAll (state : State) (actions : List Action) :
    (state.performAll actions).2.limiter = state.limiter.recordAll (state.requests actions) := by
  induction actions generalizing state with
  | nil => rfl
  | cons action rest ih =>
    have recorded := limiter_perform state action
    cases goesOn : (state.perform action).1 with
    | true =>
      rw [performAll_goesOn goesOn, requests_goesOn goesOn, ih, recorded, Limiter.recordAll,
        Limiter.recordAll, Limiter.recordAll, List.foldl_append]
    | false => rw [performAll_stopped goesOn, requests_stopped goesOn, recorded]

/-- Unless it was tripped before, a limiter is tripped by actions exactly if it refuses one of their
requests. -/
theorem tripped_performAll {state : State} (untripped : state.limiter.tripped = false)
    (actions : List Action) : (state.performAll actions).2.limiter.tripped = true ↔
      ∃ growth ∈ state.requests actions, state.limiter.grants growth = false := by
  rw [limiter_performAll, Limiter.tripped_recordAll, untripped, or_iff_right Bool.false_ne_true]

end State

end Scratchpad.Guest
