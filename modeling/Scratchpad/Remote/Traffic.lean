import Scratchpad.Moves
import Scratchpad.Remote.Service

/-!
# Overlapping runs of one service

A run enters, sends its request, and ends when the request is answered or when whoever waits for it
gives up. Nothing keeps a run from entering while others are under way: runs are numbered, their
moves come in any order, and all of them raise and lower the same flag.
-/
namespace Scratchpad

/-- How far a run has come. -/
inductive RequestPoint where
  /-- It has not entered. -/
  | waiting
  /-- It has entered with a code, and its request is not out. -/
  | entered (code : String)
  /-- Its request is out, and this becomes of it. -/
  | outstanding (delivery : Delivery)
  /-- It ended with a text to show, or without one when it was given up. -/
  | ended (shown : Option String)
deriving Repr

/-- Whether a run has entered and not ended. -/
def RequestPoint.isInFlight : RequestPoint → Bool
  | .waiting | .ended _ => false
  | .entered _ | .outstanding _ => true

/-- A service and the runs on it. -/
structure Traffic where
  remote : Remote
  point : Nat → RequestPoint := fun _ => .waiting

namespace Traffic

/-- One move of one run. -/
inductive Move where
  /-- The run enters with a code. -/
  | enter (run : Nat) (code : String)
  /-- Its request is taken up. -/
  | send (run : Nat)
  /-- Its request came to an end, and the run shows what became of it. -/
  | finish (run : Nat)
  /-- The run is given up. -/
  | abandon (run : Nat)
deriving DecidableEq, Repr

/-- Whether a move ends its run. -/
def Move.ends : Move → Bool
  | .enter _ _ | .send _ => false
  | .finish _ | .abandon _ => true

/-- The traffic of a service that no run has used. -/
def idle (endpoint : String) (deliveries : List Delivery) : Traffic where
  remote := { endpoint, deliveries }

/-- Whether a run has entered and not ended. -/
def InFlight (traffic : Traffic) (run : Nat) : Prop := (traffic.point run).isInFlight = true

/-- The traffic after a run came to a point and left the service as it is. -/
def advance (traffic : Traffic) (run : Nat) (point : RequestPoint) (remote : Remote) : Traffic where
  remote
  point other := if other = run then point else traffic.point other

/-- `RemotePython::run_python` — the traffic after a move, if its run has come far enough for it and
not too far. -/
def step? (traffic : Traffic) : Move → Option Traffic
  | .enter run code =>
    match traffic.point run with
    | .waiting => some (traffic.advance run (.entered code) traffic.remote.enter)
    | _ => none
  | .send run =>
    match traffic.point run with
    | .entered code =>
      some (traffic.advance run (.outstanding traffic.remote.next) (traffic.remote.accept code))
    | _ => none
  | .finish run =>
    match traffic.point run with
    | .outstanding delivery =>
      some (traffic.advance run (.ended (some delivery.text)) traffic.remote.leave)
    | _ => none
  | .abandon run =>
    if (traffic.point run).isInFlight then
      some (traffic.advance run (.ended none) traffic.remote.leave)
    else none

/-- The traffic after a history of moves, if each of them could be made. -/
abbrev after? (traffic : Traffic) (history : List Move) : Option Traffic :=
  Moves.after? step? traffic history

/-- A run has come to the point that it was advanced to. -/
@[simp]
theorem point_advance (traffic : Traffic) (run : Nat) (point : RequestPoint) (remote : Remote) :
    (traffic.advance run point remote).point run = point := if_pos rfl

/-- No other run is advanced. -/
theorem point_advance_of_ne (traffic : Traffic) {run other : Nat} (point : RequestPoint)
    (remote : Remote)
    (different : other ≠ run) :
    (traffic.advance run point remote).point other = traffic.point other := if_neg different

/-- Every move enters a run, sends the request of a run, or ends a run. -/
theorem step_cases {traffic next : Traffic} {move : Move} (taken : traffic.step? move = some next) :
    (∃ run code, move = .enter run code ∧ traffic.point run = .waiting ∧
      next = traffic.advance run (.entered code) traffic.remote.enter) ∨
    (∃ run code, move = .send run ∧ traffic.point run = .entered code ∧
      next = traffic.advance run (.outstanding traffic.remote.next) (traffic.remote.accept code)) ∨
    (∃ run shown, move.ends = true ∧ traffic.InFlight run ∧
      next = traffic.advance run (.ended shown) traffic.remote.leave) := by
  cases move with
  | enter run code =>
    cases point : traffic.point run with
    | waiting =>
      simp only [step?, point, Option.some.injEq] at taken
      exact .inl ⟨run, code, rfl, point, taken.symm⟩
    | entered _ => simp [step?, point] at taken
    | outstanding _ => simp [step?, point] at taken
    | ended _ => simp [step?, point] at taken
  | send run =>
    cases point : traffic.point run with
    | entered code =>
      simp only [step?, point, Option.some.injEq] at taken
      exact .inr (.inl ⟨run, code, rfl, point, taken.symm⟩)
    | waiting => simp [step?, point] at taken
    | outstanding _ => simp [step?, point] at taken
    | ended _ => simp [step?, point] at taken
  | finish run =>
    cases point : traffic.point run with
    | outstanding delivery =>
      have flying : traffic.InFlight run := by
        rw [InFlight, point]
        rfl
      simp only [step?, point, Option.some.injEq] at taken
      exact .inr (.inr ⟨run, some delivery.text, rfl, flying, taken.symm⟩)
    | waiting => simp [step?, point] at taken
    | entered _ => simp [step?, point] at taken
    | ended _ => simp [step?, point] at taken
  | abandon run =>
    by_cases flying : (traffic.point run).isInFlight = true
    · simp only [step?, if_pos flying, Option.some.injEq] at taken
      exact .inr (.inr ⟨run, none, rfl, flying, taken.symm⟩)
    · simp [step?, flying] at taken

/-- A run that nothing interferes with is one run of the service. -/
theorem after_alone (traffic : Traffic) {run : Nat} (code : String)
    (waiting : traffic.point run = .waiting) :
    ∃ last, traffic.after? [.finish run, .send run, .enter run code] = some last ∧
      last.remote = (traffic.remote.run code).2 ∧
      last.point run = .ended (some (traffic.remote.run code).1) := by
  let entered := traffic.advance run (.entered code) traffic.remote.enter
  let sent := entered.advance run (.outstanding entered.remote.next) (entered.remote.accept code)
  have enters : traffic.step? (.enter run code) = some entered := by
    simp only [step?, waiting]
    rfl
  have sends : entered.step? (.send run) = some sent := by
    simp only [step?, entered, sent, point_advance]
  refine ⟨sent.advance run (.ended (some entered.remote.next.text)) sent.remote.leave, ?_, rfl, ?_⟩
  · change ((traffic.step? (.enter run code)).bind (·.step? (.send run))).bind
      (·.step? (.finish run)) = _
    rw [enters, Option.bind_some, sends, Option.bind_some]
    simp only [step?, sent, point_advance]
  · rw [point_advance]
    rfl

end Traffic

end Scratchpad
