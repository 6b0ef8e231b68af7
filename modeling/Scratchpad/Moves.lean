/-!
# Histories of moves

A system whose parts run at once is described by the moves that it can make from a state. A history
lists moves with the latest first; it leads from a state to another one if each of its moves could
be made when its turn came, whatever part made it.
-/
namespace Scratchpad.Moves

variable {σ μ : Type} (step? : σ → μ → Option σ)

/-- The state after a history of moves, if each of them could be made. -/
def after? (start : σ) : List μ → Option σ
  | [] => some start
  | latest :: earlier => (after? start earlier).bind (step? · latest)

variable {step?}

/-- A history ends with a move from the state that the rest of it leads to. -/
theorem after_cons {start last : σ} {latest : μ} {earlier : List μ} :
    after? step? start (latest :: earlier) = some last ↔
      ∃ before, after? step? start earlier = some before ∧ step? before latest = some last :=
  Option.bind_eq_some_iff

/-- A history in two parts leads on from where its earlier part leads. -/
theorem after_append {start : σ} {later earlier : List μ} :
    after? step? start (later ++ earlier) =
      (after? step? start earlier).bind (after? step? · later) := by
  induction later with
  | nil => exact (Option.bind_fun_some _).symm
  | cons latest later ih =>
    change (after? step? start (later ++ earlier)).bind (step? · latest) = _
    rw [ih, Option.bind_assoc]
    rfl

/-- Two histories, one leading on from the other, are one. -/
theorem after_trans {start middle last : σ} {later earlier : List μ}
    (first : after? step? start earlier = some middle)
    (second : after? step? middle later = some last) :
    after? step? start (later ++ earlier) = some last := by
  rw [after_append, first, Option.bind_some, second]

/-- What holds at first and after every move of a history that it held before holds after every
history. -/
theorem after_induction {start : σ} {holds : List μ → σ → Prop} (first : holds [] start)
    (kept : ∀ earlier before latest last, after? step? start earlier = some before →
      holds earlier before → step? before latest = some last → holds (latest :: earlier) last) :
    ∀ history last, after? step? start history = some last → holds history last := by
  intro history
  induction history with
  | nil =>
    intro last reached
    cases reached
    exact first
  | cons latest earlier ih =>
    intro last reached
    obtain ⟨before, led, taken⟩ := after_cons.mp reached
    exact kept earlier before latest last led (ih before led) taken

end Scratchpad.Moves
