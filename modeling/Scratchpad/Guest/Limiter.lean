/-!
# Limiter of a guest

A guest asks before its linear memory or a table grows. A request is granted exactly when the size
asked for is within the ceiling of its kind; the limiter remembers the largest memory granted and
whether it ever refused.
-/
namespace Scratchpad.Guest

/-- `executor::limits::MAX_TABLE_ELEMENTS` — the largest number of elements of a table. -/
def maxTableElements : Nat := 10000

/-- `RunLimiter` — the state of a limiter. -/
structure Limiter where
  /-- The largest linear memory, in bytes. -/
  maxMemory : Nat
  /-- The largest linear memory granted. -/
  peak : Nat := 0
  /-- Whether a request was refused. -/
  tripped : Bool := false
deriving DecidableEq, Repr, Inhabited

/-- What a guest asks for. -/
inductive Growth where
  /-- A linear memory of a size in bytes. -/
  | memory (desired : Nat)
  /-- A table of a number of elements. -/
  | table (desired : Nat)
deriving DecidableEq, Repr

/-- A request as a host puts it to a limiter. -/
structure Request where
  growth : Growth
  /-- The size that there is. -/
  current : Nat
  /-- The largest size that there can be, if there is one. -/
  maximum : Option Nat
deriving DecidableEq, Repr

namespace Limiter

/-- Whether a request is granted. -/
def grants (limiter : Limiter) : Growth → Bool
  | .memory desired => desired ≤ limiter.maxMemory
  | .table desired => desired ≤ maxTableElements

/-- The limiter after a request. -/
def record (limiter : Limiter) (growth : Growth) : Limiter :=
  if limiter.grants growth then
    match growth with
    | .memory desired => { limiter with peak := max limiter.peak desired }
    | .table _ => limiter
  else { limiter with tripped := true }

/-- `RunLimiter::memory_growing`, `RunLimiter::table_growing` — whether a request is granted, and
the limiter after it. -/
def ask (limiter : Limiter) (growth : Growth) : Bool × Limiter :=
  (limiter.grants growth, limiter.record growth)

/-- The answer to a request of a host, and the limiter after it: of the request, only what is asked
for counts. -/
def hear (limiter : Limiter) (request : Request) : Bool × Limiter := limiter.ask request.growth

/-- The limiter after requests in order. -/
def recordAll (limiter : Limiter) (growths : List Growth) : Limiter :=
  growths.foldl record limiter

/-- The limiter after one request. -/
theorem recordAll_toList (limiter : Limiter) (growth : Growth) :
    limiter.recordAll (some growth).toList = limiter.record growth := rfl

/-- A request leaves the ceiling of the memory. -/
@[simp]
theorem maxMemory_record (limiter : Limiter) (growth : Growth) :
    (limiter.record growth).maxMemory = limiter.maxMemory := by
  unfold record
  split
  · cases growth <;> rfl
  · rfl

/-- Requests leave the ceiling of the memory. -/
@[simp]
theorem maxMemory_recordAll (limiter : Limiter) (growths : List Growth) :
    (limiter.recordAll growths).maxMemory = limiter.maxMemory := by
  induction growths generalizing limiter with
  | nil => rfl
  | cons first rest ih => exact (ih (limiter.record first)).trans (maxMemory_record limiter first)

/-- What a limiter grants depends on its ceiling alone. -/
theorem grants_congr {limiter other : Limiter} (same : limiter.maxMemory = other.maxMemory) :
    limiter.grants = other.grants := by
  funext growth
  cases growth with
  | memory desired => rw [grants, grants, same]
  | table desired => rfl

/-- A limiter grants the same after a request as before it. -/
@[simp]
theorem grants_record (limiter : Limiter) (growth : Growth) :
    (limiter.record growth).grants = limiter.grants := grants_congr (maxMemory_record limiter growth)

/-- A limiter grants the same after requests as before them. -/
@[simp]
theorem grants_recordAll (limiter : Limiter) (growths : List Growth) :
    (limiter.recordAll growths).grants = limiter.grants :=
  grants_congr (maxMemory_recordAll limiter growths)

/-- A limiter remembers that it refused a request. -/
theorem tripped_record (limiter : Limiter) (growth : Growth) :
    (limiter.record growth).tripped = true ↔
      limiter.tripped = true ∨ limiter.grants growth = false := by
  unfold record
  by_cases granted : limiter.grants growth = true
  · rw [if_pos granted, granted]
    cases growth <;> simp
  · simp [granted]

/-- After requests, a limiter has refused one of them or did so before. -/
theorem tripped_recordAll (limiter : Limiter) (growths : List Growth) :
    (limiter.recordAll growths).tripped = true ↔
      limiter.tripped = true ∨ ∃ growth ∈ growths, limiter.grants growth = false := by
  induction growths generalizing limiter with
  | nil => simp [recordAll]
  | cons first rest ih =>
    change ((limiter.record first).recordAll rest).tripped = true ↔ _
    simp only [ih, tripped_record, grants_record, or_assoc, List.mem_cons, exists_eq_or_imp]

/-- The linear memory that a limiter grants to a request. -/
def grantedMemory? (limiter : Limiter) : Growth → Option Nat
  | .memory desired => if desired ≤ limiter.maxMemory then some desired else none
  | .table _ => none

/-- A limiter remembers a larger linear memory when it grants one. -/
theorem peak_record (limiter : Limiter) (growth : Growth) :
    (limiter.record growth).peak =
      (limiter.grantedMemory? growth).toList.foldl max limiter.peak := by
  cases growth with
  | memory desired =>
    by_cases granted : desired ≤ limiter.maxMemory <;>
      simp [record, grants, grantedMemory?, granted]
  | table desired =>
    by_cases granted : desired ≤ maxTableElements <;>
      simp [record, grants, grantedMemory?, granted]

/-- A limiter grants the same linear memory after a request as before it. -/
theorem grantedMemory?_record (limiter : Limiter) (growth : Growth) :
    (limiter.record growth).grantedMemory? = limiter.grantedMemory? := by
  funext later
  cases later with
  | memory desired => rw [grantedMemory?, grantedMemory?, maxMemory_record]
  | table desired => rfl

/-- After requests, a limiter remembers the largest linear memory of those that it granted and of
what it remembered before. -/
theorem peak_recordAll (limiter : Limiter) (growths : List Growth) :
    (limiter.recordAll growths).peak =
      (growths.filterMap limiter.grantedMemory?).foldl max limiter.peak := by
  induction growths generalizing limiter with
  | nil => rfl
  | cons first rest ih =>
    change ((limiter.record first).recordAll rest).peak = _
    rw [ih, peak_record, grantedMemory?_record]
    cases granted : limiter.grantedMemory? first with
    | none => rw [List.filterMap_cons_none granted, Option.toList_none, List.foldl_nil]
    | some desired =>
      rw [List.filterMap_cons_some granted, Option.toList_some, List.foldl_cons, List.foldl_cons,
        List.foldl_nil]

end Limiter

end Scratchpad.Guest
