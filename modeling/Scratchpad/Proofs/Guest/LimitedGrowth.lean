import Scratchpad.Guest.Limiter

/-!
# What a limiter makes of requests

A limiter hears requests in any order, of any sizes, again and again. Whether it grants one depends
on the size that is asked for, on nothing that is or can be, and on nothing that came before. What
it remembers is the largest linear memory among those that it granted, and whether it ever refused
a request; a refusal leaves the first alone and is never forgotten.
-/
namespace Scratchpad.Guest

namespace Limiter

/-- The limiter of a run that begins. -/
def fresh (maxMemory : Nat) : Limiter where
  maxMemory

/-- The limiter after it heard requests in order. -/
def hearAll (limiter : Limiter) : List Request → Limiter
  | [] => limiter
  | first :: rest => (limiter.hear first).2.hearAll rest

/-- Requests in order, each with the answer that a limiter gives to it in its turn. -/
def answers (limiter : Limiter) : List Request → List (Request × Bool)
  | [] => []
  | first :: rest => (first, (limiter.hear first).1) :: (limiter.hear first).2.answers rest

/-- The linear memory that an answer grants to a request. -/
def memoryOf : Request × Bool → Option Nat
  | ({ growth := .memory desired, .. }, true) => some desired
  | _ => none

/-- Requests that a limiter heard are on record by what they asked for. -/
theorem hearAll_eq (limiter : Limiter) (heard : List Request) :
    limiter.hearAll heard = limiter.recordAll (heard.map Request.growth) := by
  induction heard generalizing limiter with
  | nil => rfl
  | cons first rest ih => exact ih (limiter.record first.growth)

/-- A limiter that hears requests in two parts hears the one part after the other. -/
theorem hearAll_append (limiter : Limiter) (first second : List Request) :
    limiter.hearAll (first ++ second) = (limiter.hearAll first).hearAll second := by
  induction first generalizing limiter with
  | nil => rfl
  | cons request rest ih => exact ih (limiter.hear request).2

/-- A limiter answers in every turn as it would have answered in the first. -/
theorem answers_eq (limiter : Limiter) (heard : List Request) :
    limiter.answers heard = heard.map fun request => (request, limiter.grants request.growth) := by
  induction heard generalizing limiter with
  | nil => rfl
  | cons first rest ih =>
    have later := ih (limiter.record first.growth)
    rw [grants_record] at later
    exact congrArg ((first, limiter.grants first.growth) :: ·) later

/-- An answer grants the linear memory that the limiter grants. -/
theorem memoryOf_answer (limiter : Limiter) (request : Request) :
    memoryOf (request, limiter.grants request.growth) = limiter.grantedMemory? request.growth := by
  obtain ⟨growth, current, maximum⟩ := request
  cases growth with
  | memory desired =>
    by_cases granted : desired ≤ limiter.maxMemory <;>
      simp [memoryOf, grants, grantedMemory?, granted]
  | table desired => rfl

/-- A limiter remembers the largest linear memory that its answers granted. -/
theorem peak_hearAll (maxMemory : Nat) (heard : List Request) :
    ((fresh maxMemory).hearAll heard).peak =
      (((fresh maxMemory).answers heard).filterMap memoryOf).max?.getD 0 := by
  have granted : ((fresh maxMemory).answers heard).filterMap memoryOf =
      (heard.map Request.growth).filterMap (fresh maxMemory).grantedMemory? := by
    rw [answers_eq, List.filterMap_map, List.filterMap_map]
    exact congrArg (heard.filterMap ·) (funext (memoryOf_answer (fresh maxMemory)))
  rw [hearAll_eq, peak_recordAll, granted, List.foldl_max]
  exact Nat.zero_max _

/-- A request leaves the largest linear memory granted within the ceiling. -/
theorem peak_hear_le {limiter : Limiter} (within : limiter.peak ≤ limiter.maxMemory)
    (request : Request) : (limiter.hear request).2.peak ≤ (limiter.hear request).2.maxMemory := by
  change (limiter.record request.growth).peak ≤ (limiter.record request.growth).maxMemory
  rw [peak_record, maxMemory_record]
  cases granted : limiter.grantedMemory? request.growth with
  | none => exact within
  | some desired =>
    have small : desired ≤ limiter.maxMemory := by
      unfold grantedMemory? at granted
      split at granted
      · split at granted
        · next small => exact Option.some.inj granted ▸ small
        · cases granted
      · cases granted
    exact Nat.max_le.mpr ⟨within, small⟩

/-- Requests leave the largest linear memory granted within the ceiling. -/
theorem peak_hearAll_le {limiter : Limiter} (within : limiter.peak ≤ limiter.maxMemory)
    (heard : List Request) :
    (limiter.hearAll heard).peak ≤ (limiter.hearAll heard).maxMemory := by
  induction heard generalizing limiter with
  | nil => exact within
  | cons first rest ih => exact ih (peak_hear_le within first)

/-- A limiter is tripped exactly if one of its answers was a refusal. -/
theorem tripped_hearAll (maxMemory : Nat) (heard : List Request) :
    ((fresh maxMemory).hearAll heard).tripped = true ↔
      ∃ request, (request, false) ∈ (fresh maxMemory).answers heard := by
  have untripped : (fresh maxMemory).tripped = false := rfl
  rw [hearAll_eq, tripped_recordAll, answers_eq, untripped, or_iff_right Bool.false_ne_true]
  constructor
  · rintro ⟨growth, asked, refused⟩
    obtain ⟨request, inside, rfl⟩ := List.mem_map.mp asked
    exact ⟨request, List.mem_map.mpr ⟨request, inside, by rw [refused]⟩⟩
  · rintro ⟨request, answered⟩
    obtain ⟨same, inside, answer⟩ := List.mem_map.mp answered
    exact ⟨same.growth, List.mem_map_of_mem inside, (Prod.mk.inj answer).2⟩

/-- A limiter that is tripped stays so. -/
theorem tripped_hearAll_of_tripped {limiter : Limiter} (tripped : limiter.tripped = true)
    (later : List Request) : (limiter.hearAll later).tripped = true := by
  rw [hearAll_eq, tripped_recordAll]
  exact .inl tripped

/-- A limiter that has heard requests grants what it would have granted without them. -/
theorem hear_hearAll (maxMemory : Nat) (heard : List Request) (request : Request) :
    (((fresh maxMemory).hearAll heard).hear request).1 =
      (fresh maxMemory).grants request.growth := by
  change ((fresh maxMemory).hearAll heard).grants request.growth = _
  rw [hearAll_eq, grants_recordAll]

/-- A refusal changes a limiter only by tripping it. -/
theorem hear_of_refused {limiter : Limiter} {request : Request}
    (refused : (limiter.hear request).1 = false) :
    (limiter.hear request).2 = { limiter with tripped := true } := by
  have ungranted : ¬ limiter.grants request.growth = true := Bool.eq_false_iff.mp refused
  change limiter.record request.growth = _
  rw [record.eq_def, if_neg ungranted]

/-- What holds of a limiter that began with a ceiling, when it has heard requests in order. -/
structure KeepsAccount (maxMemory : Nat) (heard : List Request) : Prop where
  /-- A linear memory is granted by its size, whatever there is or can be. -/
  memory : ∀ desired current maximum,
    (((fresh maxMemory).hearAll heard).hear ⟨.memory desired, current, maximum⟩).1 = true ↔
      desired ≤ maxMemory
  /-- A table is granted by its size, whatever there is or can be. -/
  table : ∀ desired current maximum,
    (((fresh maxMemory).hearAll heard).hear ⟨.table desired, current, maximum⟩).1 = true ↔
      desired ≤ 10000
  /-- The largest linear memory granted is remembered, or nothing if there is none. -/
  peak : ((fresh maxMemory).hearAll heard).peak =
    (((fresh maxMemory).answers heard).filterMap memoryOf).max?.getD 0
  peak_le : ((fresh maxMemory).hearAll heard).peak ≤ maxMemory
  /-- It is remembered whether a request was refused. -/
  tripped : ((fresh maxMemory).hearAll heard).tripped = true ↔
    ∃ request, (request, false) ∈ (fresh maxMemory).answers heard
  /-- No later request makes a refusal forgotten. -/
  stays : ((fresh maxMemory).hearAll heard).tripped = true →
    ∀ later, ((fresh maxMemory).hearAll (heard ++ later)).tripped = true
  /-- A refusal changes nothing but that it is remembered. -/
  refused : ∀ request, (((fresh maxMemory).hearAll heard).hear request).1 = false →
    (((fresh maxMemory).hearAll heard).hear request).2 =
      { (fresh maxMemory).hearAll heard with tripped := true }
  /-- A table never changes what is remembered of the linear memory. -/
  unmoved : ∀ desired current maximum,
    (((fresh maxMemory).hearAll heard).hear ⟨.table desired, current, maximum⟩).2.peak =
      ((fresh maxMemory).hearAll heard).peak

end Limiter

/-- Whatever requests a limiter has heard, it answers the next one by its size alone, remembers the
largest linear memory that it granted and whether it ever refused, and keeps within its ceiling. -/
theorem limiter_keeps_account (maxMemory : Nat) (heard : List Request) :
    Limiter.KeepsAccount maxMemory heard where
  memory desired current maximum := by
    rw [Limiter.hear_hearAll]
    exact decide_eq_true_iff
  table desired current maximum := by
    rw [Limiter.hear_hearAll]
    exact decide_eq_true_iff
  peak := Limiter.peak_hearAll maxMemory heard
  peak_le := by
    have nothing : (Limiter.fresh maxMemory).peak ≤ (Limiter.fresh maxMemory).maxMemory :=
      Nat.zero_le maxMemory
    have within := Limiter.peak_hearAll_le nothing heard
    rwa [Limiter.hearAll_eq, Limiter.maxMemory_recordAll, ← Limiter.hearAll_eq] at within
  tripped := Limiter.tripped_hearAll maxMemory heard
  stays tripped later := by
    rw [Limiter.hearAll_append]
    exact Limiter.tripped_hearAll_of_tripped tripped later
  refused request := Limiter.hear_of_refused
  unmoved desired current maximum := by
    change (Limiter.record _ (.table desired)).peak = _
    rw [Limiter.peak_record]
    rfl

/-- A grant after refusals, of less than was granted before, leaves both on record. -/
example :
    let asked := [.memory 60, .memory 200, .table 10001, .memory 20].map (Request.mk · 0 none)
    let limiter := (Limiter.fresh 100).hearAll asked
    limiter.peak = 60 ∧ limiter.tripped = true := by
  decide

end Scratchpad.Guest
