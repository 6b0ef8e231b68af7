import Scratchpad.Guest.Conduct

/-!
# Wider ceilings of the memory

A wider ceiling grants what a tighter one granted, so a run in which nothing was refused is the same
under both. A run that was refused a growth and ignored that goes another way under a wider ceiling:
it has more memory, and what it asks for later is more than it was. So a success stays the same
success unless the guest goes on to insist on a growth that is now too large. Whether a table is
refused depends on no ceiling of the memory.
-/
namespace Scratchpad.Guest

/-! ## One guest under two ceilings -/

/-- A limiter with another ceiling of the memory. -/
def Limiter.withCeiling (limiter : Limiter) (ceiling : Nat) : Limiter :=
  { limiter with maxMemory := ceiling }

/-- A guest whose limiter has another ceiling of the memory. -/
def State.withCeiling (state : State) (ceiling : Nat) : State :=
  { state with limiter := state.limiter.withCeiling ceiling }

/-- A limiter says the same of a request with another ceiling of the memory. -/
def Limiter.SaysSame (limiter : Limiter) (ceiling : Nat) (growth : Growth) : Prop :=
  (limiter.withCeiling ceiling).grants growth = limiter.grants growth

/-- What was granted is granted under a wider ceiling. -/
theorem Limiter.saysSame_of_granted {limiter : Limiter} {ceiling : Nat}
    (wider : limiter.maxMemory ≤ ceiling) {growth : Growth}
    (granted : limiter.grants growth = true) : limiter.SaysSame ceiling growth := by
  rw [SaysSame, granted]
  cases growth with
  | memory desired =>
    have within : desired ≤ limiter.maxMemory := of_decide_eq_true granted
    exact decide_eq_true (Nat.le_trans within wider)
  | table desired => exact granted

/-- Requests of which a limiter says the same leave the same on record. -/
theorem Limiter.record_withCeiling {limiter : Limiter} {ceiling : Nat} {growth : Growth}
    (same : limiter.SaysSame ceiling growth) :
    (limiter.withCeiling ceiling).record growth = (limiter.record growth).withCeiling ceiling := by
  have answers : (limiter.withCeiling ceiling).grants growth = limiter.grants growth := same
  unfold record
  rw [answers]
  split
  · cases growth <;> rfl
  · rfl

/-- Requests of all of which a limiter says the same leave the same on record. -/
theorem Limiter.recordAll_withCeiling {limiter : Limiter} {ceiling : Nat} {growths : List Growth}
    (same : ∀ growth ∈ growths, limiter.SaysSame ceiling growth) :
    (limiter.withCeiling ceiling).recordAll growths =
      (limiter.recordAll growths).withCeiling ceiling := by
  induction growths generalizing limiter with
  | nil => rfl
  | cons first rest ih =>
    have later : ∀ growth ∈ rest, (limiter.record first).SaysSame ceiling growth := by
      intro growth among
      have answers := same growth (List.mem_cons_of_mem first among)
      rw [SaysSame, ← record_withCeiling (same first List.mem_cons_self), grants_record,
        grants_record]
      exact answers
    have next := ih later
    rw [← record_withCeiling (same first List.mem_cons_self)] at next
    exact next

namespace State

/-- A memory of which the limiter says the same grows the same with another ceiling. -/
theorem growMemory_withCeiling {state : State} {ceiling pages : Nat} (more : pages ≠ 0)
    (same : state.limiter.SaysSame ceiling (.memory ((state.pages + pages) * pageSize))) :
    (state.withCeiling ceiling).growMemory pages =
      ((state.growMemory pages).1, (state.growMemory pages).2.withCeiling ceiling) := by
  have recorded := Limiter.record_withCeiling same
  rw [Limiter.SaysSame] at same
  cases granted : state.limiter.grants (.memory ((state.pages + pages) * pageSize)) with
  | false => simp [growMemory, more, withCeiling, Limiter.ask, same, recorded, granted]
  | true =>
    by_cases fits : state.pages + pages ≤ maxPages <;>
      simp [growMemory, more, withCeiling, Limiter.ask, same, recorded, granted, fits]

/-- A table of which the limiter says the same grows the same with another ceiling. -/
theorem growTable_withCeiling {state : State} {ceiling elements : Nat} (more : elements ≠ 0)
    (same : state.limiter.SaysSame ceiling (.table (state.elements + elements))) :
    (state.withCeiling ceiling).growTable elements =
      ((state.growTable elements).1, (state.growTable elements).2.withCeiling ceiling) := by
  have recorded := Limiter.record_withCeiling same
  rw [Limiter.SaysSame] at same
  cases granted : state.limiter.grants (.table (state.elements + elements)) <;>
    simp [growTable, more, withCeiling, Limiter.ask, same, recorded, granted]

/-- A guest of whose request its limiter says the same does the same with another ceiling. -/
theorem perform_withCeiling {state : State} {ceiling : Nat} {action : Action}
    (same : ∀ growth ∈ state.request? action, state.limiter.SaysSame ceiling growth) :
    (state.withCeiling ceiling).perform action =
      ((state.perform action).1, (state.perform action).2.withCeiling ceiling) := by
  cases action with
  | write stream bytes => cases stream <;> rfl
  | growMemory pages required =>
    by_cases none : pages = 0
    · simp [perform, growMemory, none]
    · have grown := growMemory_withCeiling none (same _ (if_neg none))
      simp only [perform, grown]
  | growTable elements required =>
    by_cases none : elements = 0
    · simp [perform, growTable, none]
    · have grown := growTable_withCeiling none (same _ (if_neg none))
      simp only [perform, grown]

/-- A guest of whose requests its limiter says the same does the same with another ceiling. -/
theorem performAll_withCeiling {state : State} {ceiling : Nat} {actions : List Action}
    (same : ∀ growth ∈ state.requests actions, state.limiter.SaysSame ceiling growth) :
    (state.withCeiling ceiling).performAll actions =
      ((state.performAll actions).1, (state.performAll actions).2.withCeiling ceiling) := by
  induction actions generalizing state with
  | nil => rfl
  | cons action rest ih =>
    have first : ∀ growth ∈ (state.request? action).toList,
        state.limiter.SaysSame ceiling growth := by
      intro growth asked
      rw [requests] at same
      exact same growth (List.mem_append_left _ asked)
    have now := perform_withCeiling fun growth asked => first growth (Option.mem_toList.mpr asked)
    cases goesOn : (state.perform action).1 with
    | false =>
      have stops : ((state.withCeiling ceiling).perform action).1 = false := by rw [now, goesOn]
      rw [performAll_stopped goesOn, performAll_stopped stops, now]
    | true =>
      have onward : ((state.withCeiling ceiling).perform action).1 = true := by rw [now, goesOn]
      rw [performAll_goesOn goesOn, performAll_goesOn onward, now]
      refine ih fun growth asked => ?_
      rw [requests_goesOn goesOn] at same
      have answers := same growth (List.mem_append_right _ asked)
      rw [Limiter.SaysSame, limiter_perform, ← Limiter.recordAll_withCeiling first,
        Limiter.grants_recordAll, Limiter.grants_recordAll]
      exact answers

end State

/-! ## Guests that answer refusals in two ways -/

/-- Whether an action is a growth of the memory whose refusal is ignored. -/
def Action.ignoresMemory : Action → Bool
  | .growMemory _ required => !required
  | .write _ _ | .growTable _ _ => false

namespace State

/-- A growth of the memory that a guest insists on is refused and stops it, after a growth of the
memory whose refusal it would have ignored; the flag says that there was one before. -/
def TrapsPastIgnored (state : State) (ignored : Bool) (actions : List Action) : Prop :=
  ∃ before pages after, actions = before ++ .growMemory pages true :: after ∧
    (ignored || before.any Action.ignoresMemory) = true ∧
    (state.performAll before).1 = true ∧
    ((state.performAll before).2.growMemory pages).1 = false

/-- A guest that comes to the end of its first actions does the rest from there. -/
theorem performAll_append {state : State} {first : List Action}
    (goesOn : (state.performAll first).1 = true) (rest : List Action) :
    state.performAll (first ++ rest) = (state.performAll first).2.performAll rest := by
  induction first generalizing state with
  | nil => rfl
  | cons action first ih =>
    obtain ⟨now, later⟩ := goesOn_cons goesOn
    rw [List.cons_append, performAll_goesOn now, performAll_goesOn now, ih later]

/-- A guest that is refused a growth that it insists on does not come to the end. -/
theorem stopped_of_trapsPastIgnored {state : State} {ignored : Bool} {actions : List Action}
    (traps : state.TrapsPastIgnored ignored actions) : (state.performAll actions).1 = false := by
  obtain ⟨before, pages, after, rfl, -, goesOn, refused⟩ := traps
  have stops : ((state.performAll before).2.perform (.growMemory pages true)).1 = false := by
    change (((state.performAll before).2.growMemory pages).1 || !true) = false
    rw [refused]
    rfl
  rw [performAll_append goesOn, performAll_stopped stops]

/-- What a guest is stopped by after its first action stops it. -/
theorem TrapsPastIgnored.cons {state : State} {ignored : Bool} {action : Action}
    {rest : List Action} (goesOn : (state.perform action).1 = true)
    (traps : (state.perform action).2.TrapsPastIgnored (ignored || action.ignoresMemory) rest) :
    state.TrapsPastIgnored ignored (action :: rest) := by
  obtain ⟨before, pages, after, rfl, earlier, later, refused⟩ := traps
  refine ⟨action :: before, pages, after, rfl, ?_, ?_, ?_⟩
  · rw [List.any_cons, ← Bool.or_assoc]
    exact earlier
  · rwa [performAll_goesOn goesOn]
  · rwa [performAll_goesOn goesOn]

/-- What a guest has written that comes to the end of its actions is what they write. -/
theorem written_performAll {state : State} {actions : List Action}
    (goesOn : (state.performAll actions).1 = true) (stream : Stream) :
    (state.performAll actions).2.written stream =
      state.written stream ++ actions.flatMap (Action.bytesTo stream) := by
  induction actions generalizing state with
  | nil => exact (List.append_nil _).symm
  | cons action rest ih =>
    obtain ⟨first, later⟩ := goesOn_cons goesOn
    rw [performAll_goesOn first, ih later, written_perform, List.append_assoc, List.flatMap_cons]

/-! ## Sizes of the memory and the table -/

/-- When a growth of the memory is granted. -/
theorem growMemory_granted_iff (state : State) (pages : Nat) :
    (state.growMemory pages).1 = true ↔ pages = 0 ∨
      (state.pages + pages) * pageSize ≤ state.limiter.maxMemory ∧
        state.pages + pages ≤ maxPages := by
  by_cases none : pages = 0
  · simp [growMemory, none]
  · simp only [growMemory, Limiter.ask, Limiter.grants, none, false_or]
    by_cases fits : (state.pages + pages) * pageSize ≤ state.limiter.maxMemory <;>
      by_cases exists_ : state.pages + pages ≤ maxPages <;> simp [fits, exists_]

/-- A growth of the memory that is granted makes it larger. -/
theorem pages_growMemory (state : State) (pages : Nat) : (state.growMemory pages).2.pages =
    if (state.growMemory pages).1 then state.pages + pages else state.pages := by
  by_cases none : pages = 0
  · simp [growMemory, none]
  · simp only [growMemory, if_neg none]
    split <;> simp

/-- A growth of the memory leaves the table. -/
theorem elements_growMemory (state : State) (pages : Nat) :
    (state.growMemory pages).2.elements = state.elements := by
  by_cases none : pages = 0
  · simp [growMemory, none]
  · simp only [growMemory, if_neg none]
    split <;> rfl

/-- When a growth of the table is granted. -/
theorem growTable_granted_iff (state : State) (elements : Nat) :
    (state.growTable elements).1 = true ↔
      elements = 0 ∨ state.elements + elements ≤ maxTableElements := by
  by_cases none : elements = 0
  · simp [growTable, none]
  · simp only [growTable, Limiter.ask, Limiter.grants, none, false_or]
    by_cases fits : state.elements + elements ≤ maxTableElements <;> simp [fits]

/-- A growth of the table that is granted makes it larger. -/
theorem elements_growTable (state : State) (elements : Nat) :
    (state.growTable elements).2.elements =
      if (state.growTable elements).1 then state.elements + elements else state.elements := by
  by_cases none : elements = 0
  · simp [growTable, none]
  · simp only [growTable, if_neg none]
    split <;> simp

/-- A growth of the table leaves the memory. -/
theorem pages_growTable (state : State) (elements : Nat) :
    (state.growTable elements).2.pages = state.pages := by
  by_cases none : elements = 0
  · simp [growTable, none]
  · simp only [growTable, if_neg none]
    split <;> rfl

/-- No action changes the ceiling of the memory. -/
theorem maxMemory_perform (state : State) (action : Action) :
    (state.perform action).2.limiter.maxMemory = state.limiter.maxMemory := by
  rw [limiter_perform, Limiter.maxMemory_recordAll]

/-! ## A guest beside another one -/

/-- The guest under a wider ceiling has the table of the one under a tighter ceiling, and until a
growth was ignored its memory, too. -/
structure Beside (tight wide : State) (ignored : Bool) : Prop where
  ceiling : tight.limiter.maxMemory ≤ wide.limiter.maxMemory
  elements : wide.elements = tight.elements
  pages : ignored = false → wide.pages = tight.pages

/-- A growth of the memory that is insisted on and granted under a tighter ceiling is granted under
the wider one, as long as nothing was ignored. -/
theorem Beside.granted {tight wide : State} (beside : tight.Beside wide false) {pages : Nat}
    (granted : (tight.growMemory pages).1 = true) : (wide.growMemory pages).1 = true := by
  rw [growMemory_granted_iff] at granted ⊢
  rw [beside.pages rfl]
  exact granted.imp_right fun fits => ⟨Nat.le_trans fits.1 beside.ceiling, fits.2⟩

/-- After a growth of the memory that both guests got, they are beside each other as before. -/
theorem Beside.grown {tight wide : State} {ignored : Bool} (beside : tight.Beside wide ignored)
    {pages : Nat} (granted : (tight.growMemory pages).1 = true)
    (wider : (wide.growMemory pages).1 = true) (required : Bool) :
    (tight.perform (.growMemory pages required)).2.Beside
      (wide.perform (.growMemory pages required)).2 ignored := by
  refine ⟨?_, ?_, fun none => ?_⟩
  · rw [maxMemory_perform, maxMemory_perform]
    exact beside.ceiling
  · change (wide.growMemory pages).2.elements = (tight.growMemory pages).2.elements
    rw [elements_growMemory, elements_growMemory, beside.elements]
  · change (wide.growMemory pages).2.pages = (tight.growMemory pages).2.pages
    rw [pages_growMemory, pages_growMemory, granted, wider, beside.pages none]

/-- One action: if the guest under the tighter ceiling goes on, so does the other one, unless it is
refused what it insists on after something was ignored. -/
theorem Beside.perform {tight wide : State} {ignored : Bool} (beside : tight.Beside wide ignored)
    {action : Action} (goesOn : (tight.perform action).1 = true)
    (unrefused : ignored = true → ∀ pages, action = .growMemory pages true →
      (wide.growMemory pages).1 = true) :
    (wide.perform action).1 = true ∧ (tight.perform action).2.Beside (wide.perform action).2
      (ignored || action.ignoresMemory) := by
  have ceilings : (tight.perform action).2.limiter.maxMemory ≤
      (wide.perform action).2.limiter.maxMemory := by
    rw [maxMemory_perform, maxMemory_perform]
    exact beside.ceiling
  cases action with
  | write stream bytes =>
    have pages (none : (ignored || false) = false) : wide.pages = tight.pages :=
      beside.pages (Bool.or_eq_false_iff.mp none).1
    cases stream <;> exact ⟨rfl, ceilings, beside.elements, pages⟩
  | growTable elements required =>
    have same : (wide.growTable elements).1 = (tight.growTable elements).1 := by
      rw [Bool.eq_iff_iff, growTable_granted_iff, growTable_granted_iff, beside.elements]
    refine ⟨?_, ceilings, ?_, fun none => ?_⟩
    · change ((wide.growTable elements).1 || !required) = true
      rw [same]
      exact goesOn
    · change (wide.growTable elements).2.elements = (tight.growTable elements).2.elements
      rw [elements_growTable, elements_growTable, same, beside.elements]
    · change (wide.growTable elements).2.pages = (tight.growTable elements).2.pages
      rw [pages_growTable, pages_growTable, beside.pages (Bool.or_eq_false_iff.mp none).1]
  | growMemory pages required =>
    cases required with
    | false =>
      -- Whatever the answers are, both go on, and the sizes may part here.
      refine ⟨Bool.or_true _, ceilings, ?_, fun none => ?_⟩
      · change (wide.growMemory pages).2.elements = (tight.growMemory pages).2.elements
        rw [elements_growMemory, elements_growMemory, beside.elements]
      · cases (Bool.or_eq_false_iff.mp none).2
    | true =>
      have granted : (tight.growMemory pages).1 = true := (Bool.or_false _).symm.trans goesOn
      have wider : (wide.growMemory pages).1 = true := by
        cases ignored with
        | true => exact unrefused rfl pages rfl
        | false => exact beside.granted granted
      refine ⟨?_, ?_⟩
      · change ((wide.growMemory pages).1 || !true) = true
        rw [wider]
        rfl
      · rw [show (ignored || (Action.growMemory pages true).ignoresMemory) = ignored from
          Bool.or_false ignored]
        exact beside.grown granted wider true

/-- All actions: the guest under the wider ceiling comes to the end as the other one does, unless it
is refused what it insists on after something was ignored. -/
theorem Beside.performAll {tight wide : State} {ignored : Bool} {actions : List Action}
    (beside : tight.Beside wide ignored) (goesOn : (tight.performAll actions).1 = true)
    (unstopped : ¬ wide.TrapsPastIgnored ignored actions) :
    (wide.performAll actions).1 = true := by
  induction actions generalizing tight wide ignored with
  | nil => rfl
  | cons action rest ih =>
    obtain ⟨first, later⟩ := goesOn_cons goesOn
    have unrefused : ignored = true → ∀ pages, action = .growMemory pages true →
        (wide.growMemory pages).1 = true := by
      rintro rfl pages rfl
      refine Classical.byContradiction fun refused => ?_
      exact unstopped ⟨[], pages, rest, rfl, rfl, rfl, Bool.eq_false_iff.mpr refused⟩
    obtain ⟨onward, next⟩ := beside.perform first unrefused
    rw [performAll_goesOn onward]
    exact ih next later fun traps => unstopped (traps.cons onward)

end State

/-! ## Programs under two ceilings -/

/-- Settings without a budget of instructions, and with a ceiling of the memory. -/
def unbudgeted (settings : InterpreterSettings) (ceiling : Nat) : InterpreterSettings :=
  { settings with maxMemory := ceiling, maxFuel := none }

namespace Program

/-- Everything that a program asks of the limiter with a code. -/
def requests (program : Program) (settings : InterpreterSettings) (code : String) : List Growth :=
  program.firstRequests ++
    match program.opened settings with
    | .ok opened => opened.requests (program.actions (arguments code))
    | .error _ => []

/-- A program with a code is refused nothing. -/
def Unrefused (program : Program) (settings : InterpreterSettings) (code : String) : Prop :=
  ∀ growth ∈ program.requests settings code, ¬ growth.Exceeds settings

/-- A program with a code traps because it is refused a growth of its memory that it insists on,
after a growth of its memory whose refusal it would have ignored. -/
def TrapsPastIgnored (program : Program) (settings : InterpreterSettings) (code : String) : Prop :=
  ∃ opened, program.opened settings = .ok opened ∧
    opened.TrapsPastIgnored false (program.actions (arguments code))

variable {program : Program} {settings : InterpreterSettings} {code : String} {tight wide : Nat}

/-- A limiter with the tighter ceiling says the same of a request that does not go beyond it. -/
theorem saysSame_of_within (wider : tight ≤ wide) {limiter : Limiter}
    (ceiling : limiter.maxMemory = tight) {growth : Growth}
    (within : ¬ growth.Exceeds (unbudgeted settings tight)) : limiter.SaysSame wide growth := by
  rw [Growth.exceeds_iff, Bool.not_eq_false] at within
  have grants : limiter.grants = ({ maxMemory := tight } : Limiter).grants :=
    Limiter.grants_congr ceiling
  refine Limiter.saysSame_of_granted (ceiling ▸ wider) ?_
  rw [grants]
  exact within

/-- A program whose first memory and table are within the tighter ceiling starts under both
alike. -/
theorem opened_wider (wider : tight ≤ wide)
    (within : ∀ growth ∈ program.firstRequests, ¬ growth.Exceeds (unbudgeted settings tight)) :
    program.opened (unbudgeted settings wide) =
      (program.opened (unbudgeted settings tight)).map (·.withCeiling wide) := by
  rw [opened, opened]
  cases resolved : program.unresolved with
  | true => rfl
  | false =>
    have same : ∀ growth ∈ program.firstRequests,
        ({ maxMemory := tight } : Limiter).SaysSame wide growth :=
      fun growth asked => saysSame_of_within wider rfl (within growth asked)
    have limiters : program.instantiate (unbudgeted settings wide) =
        (program.instantiate (unbudgeted settings tight)).withCeiling wide := by
      rw [instantiate_eq resolved, instantiate_eq resolved]
      exact Limiter.recordAll_withCeiling same
    simp only [Bool.false_eq_true, if_false, limiters]
    generalize program.instantiate (unbudgeted settings tight) = limiter
    obtain ⟨maxMemory, peak, tripped⟩ := limiter
    cases tripped with
    | true => rfl
    | false => cases program.entry <;> rfl

/-- A program that starts was refused neither its first memory nor its first table. -/
theorem within_of_opened {opened : State} (started : program.opened settings = .ok opened) :
    ∀ growth ∈ program.firstRequests, ¬ growth.Exceeds settings := by
  obtain ⟨resolved, untripped, -, -⟩ := opened_eq_ok.mp started
  rw [instantiate_eq resolved] at untripped
  intro growth asked exceeds
  have tripped := (Limiter.tripped_recordAll _ program.firstRequests).mpr
    (.inr ⟨growth, asked, (Growth.exceeds_iff settings growth).mp exceeds⟩)
  rw [untripped] at tripped
  cases tripped

/-- A started guest is refused nothing exactly if its limiter is not tripped in the end. -/
theorem untripped_iff {opened : State} (started : program.opened settings = .ok opened)
    (actions : List Action) :
    (opened.performAll actions).2.limiter.tripped = false ↔
      ∀ growth ∈ opened.requests actions, ¬ growth.Exceeds settings := by
  rw [← Bool.not_eq_true, State.tripped_performAll (opened_untripped started),
    opened_grants started]
  simp only [Growth.exceeds_iff, not_exists, not_and]

/-- What is judged of a guest that was refused nothing does not depend on the ceiling. -/
theorem judge_withCeiling {state : State} (untripped : state.limiter.tripped = false)
    (ended : End) :
    judge (unbudgeted settings wide) (state.withCeiling wide) ended =
      judge (unbudgeted settings tight) state ended := by
  have same : (state.withCeiling wide).limiter.tripped = false := untripped
  cases ended <;> simp only [judge, untripped, same] <;> rfl

/-- A program that is refused nothing under the tighter ceiling does the same under the wider. -/
theorem run_of_unrefused (wider : tight ≤ wide)
    (unrefused : program.Unrefused (unbudgeted settings tight) code) :
    program.run (unbudgeted settings wide) code = program.run (unbudgeted settings tight) code := by
  have opens : program.opened (unbudgeted settings wide) =
      (program.opened (unbudgeted settings tight)).map (·.withCeiling wide) :=
    opened_wider wider fun growth asked => unrefused growth (List.mem_append_left _ asked)
  cases started : program.opened (unbudgeted settings tight) with
  | error failure =>
    rw [started] at opens
    have fails : program.opened (unbudgeted settings wide) = .error failure := opens
    rw [run, run, started, fails]
  | ok opened =>
    rw [started] at opens
    have starts : program.opened (unbudgeted settings wide) = .ok (opened.withCeiling wide) := opens
    have within : ∀ growth ∈ opened.requests (program.actions (arguments code)),
        ¬ growth.Exceeds (unbudgeted settings tight) := by
      intro growth asked
      refine unrefused growth (List.mem_append_right _ ?_)
      rw [started]
      exact asked
    have same : (opened.withCeiling wide).performAll (program.actions (arguments code)) =
        ((opened.performAll (program.actions (arguments code))).1,
          (opened.performAll (program.actions (arguments code))).2.withCeiling wide) :=
      State.performAll_withCeiling fun growth asked =>
        saysSame_of_within wider (opened_maxMemory started) (within growth asked)
    rw [run_opened started, run_opened starts, enter_eq, enter_eq, same]
    exact judge_withCeiling ((untripped_iff started _).mpr within) _

/-- A started guest of settings without a budget comes to its ending if nothing stops it. -/
theorem run_reached_ending {opened : State} (started : program.opened settings = .ok opened)
    (fueled : starved settings = false)
    (goesOn : (opened.performAll (program.actions (arguments code))).1 = true) :
    program.run settings code = judge settings
      (opened.performAll (program.actions (arguments code))).2 (program.ending.seen settings) := by
  rw [run_opened started, enter_eq, fueled, goesOn]
  rfl

/-- A guest whose run is a success went on to the end of its actions. -/
theorem goesOn_of_ok {opened : State} (started : program.opened settings = .ok opened)
    {captured : Captured} (ok : program.run settings code = .ok captured) :
    (opened.performAll (program.actions (arguments code))).1 = true := by
  rw [run_opened started, enter_eq, judge_eq_ok] at ok
  cases goesOn : (opened.performAll (program.actions (arguments code))).1 with
  | true => rfl
  | false =>
    rw [goesOn] at ok
    cases starving : starved settings <;> simp [starving] at ok

/-- What is captured of guests that wrote the same is the same. -/
theorem capture_congr {state other : State}
    (same : ∀ stream, state.written stream = other.written stream) (status : Int) :
    state.capture (unbudgeted settings tight) status =
      other.capture (unbudgeted settings wide) status := by
  have output : state.output.reverse.flatten = other.output.reverse.flatten := same .output
  have error : state.error.reverse.flatten = other.error.reverse.flatten := same .error
  rw [State.capture, State.capture, captureText, captureText, captureText, captureText, output,
    error]
  rfl

/-- A program that traps past an ignored growth fails. -/
theorem TrapsPastIgnored.fails (traps : program.TrapsPastIgnored settings code) :
    ∃ failure, program.run settings code = .error failure := by
  obtain ⟨opened, started, stopped⟩ := traps
  cases ended : program.run settings code with
  | error failure => exact ⟨failure, rfl⟩
  | ok captured =>
    cases (State.stopped_of_trapsPastIgnored stopped).symm.trans (goesOn_of_ok started ended)

/-- A program that succeeds under the tighter ceiling and does not trap past an ignored growth under
the wider one does the same there. -/
theorem run_of_ok (wider : tight ≤ wide) {captured : Captured}
    (ok : program.run (unbudgeted settings tight) code = .ok captured)
    (unstopped : ¬ program.TrapsPastIgnored (unbudgeted settings wide) code) :
    program.run (unbudgeted settings wide) code = .ok captured := by
  cases started : program.opened (unbudgeted settings tight) with
  | error failure =>
    rw [run, started] at ok
    cases ok
  | ok opened =>
    have goesOn := goesOn_of_ok started ok
    have within := within_of_opened started
    cases tripped :
      (opened.performAll (program.actions (arguments code))).2.limiter.tripped with
    | false =>
      have unrefused : program.Unrefused (unbudgeted settings tight) code := by
        intro growth asked
        rw [requests, started] at asked
        rcases List.mem_append.mp asked with first | later
        · exact within growth first
        · exact (untripped_iff started _).mp tripped growth later
      rw [run_of_unrefused wider unrefused, ok]
    | true =>
      rw [run_reached_ending started rfl goesOn, judge_eq_ok] at ok
      obtain ⟨returns, captures⟩ | ⟨status, exits, untripped, -⟩ := ok
      case inr =>
        rw [tripped] at untripped
        cases untripped
      have starts : program.opened (unbudgeted settings wide) = .ok (opened.withCeiling wide) := by
        rw [opened_wider wider within, started]
        rfl
      have below : opened.limiter.maxMemory ≤ wide := (opened_maxMemory started).symm ▸ wider
      have beside : opened.Beside (opened.withCeiling wide) false := ⟨below, rfl, fun _ => rfl⟩
      have onward := beside.performAll goesOn fun traps => unstopped ⟨_, starts, traps⟩
      have wrote (stream : Stream) :
          (opened.performAll (program.actions (arguments code))).2.written stream =
          ((opened.withCeiling wide).performAll
            (program.actions (arguments code))).2.written stream := by
        rw [State.written_performAll goesOn, State.written_performAll onward]
        cases stream <;> rfl
      have ending : program.ending.seen (unbudgeted settings wide) = .returned := returns
      rw [run_reached_ending starts rfl onward, ending, ← captures]
      exact congrArg Except.ok (capture_congr wrote 0).symm

end Program

/-- A program that succeeds under a ceiling of its memory does the same under a wider one exactly if
it does not trap there past an ignored growth, which is a failure; and what it does without being
refused anything it does under a wider ceiling, be it a success or a failure. -/
theorem success_kept_under_wider_ceiling (program : Program) (settings : InterpreterSettings)
    (code : String) {tight wide : Nat} (wider : tight ≤ wide) :
    (∀ captured, program.run (unbudgeted settings tight) code = .ok captured →
      (program.run (unbudgeted settings wide) code = .ok captured ↔
        ¬ program.TrapsPastIgnored (unbudgeted settings wide) code)) ∧
    (program.TrapsPastIgnored (unbudgeted settings wide) code →
      ∃ failure, program.run (unbudgeted settings wide) code = .error failure) ∧
    (program.Unrefused (unbudgeted settings tight) code →
      program.run (unbudgeted settings wide) code =
        program.run (unbudgeted settings tight) code) := by
  refine ⟨fun captured ok => ⟨fun kept traps => ?_, Program.run_of_ok wider ok⟩,
    Program.TrapsPastIgnored.fails, Program.run_of_unrefused wider⟩
  obtain ⟨failure, failed⟩ := traps.fails
  cases kept.symm.trans failed

/-- A program that writes a text, asks for a second page of memory, and returns whether it gets it
or not. -/
def undemanding : Program where
  memory := some 1
  table := none
  unresolved := false
  entry := .proper
  actions _ := [.write .output (Text.Utf8.bytes "done"), .growMemory 1 false]
  ending := .returns

/-- With a ceiling of one page it is refused the second and returns, and with two it returns the
same; with two it is refused nothing, and with three it does the same. -/
theorem success_kept_under_wider_ceiling_undemanding :
    ¬ undemanding.Unrefused (unbudgeted {} pageSize) "" ∧
    undemanding.run (unbudgeted {} (2 * pageSize)) "" =
      .ok { output := "done", error := "", status := 0 } ∧
    undemanding.Unrefused (unbudgeted {} (2 * pageSize)) "" ∧
    undemanding.run (unbudgeted {} (3 * pageSize)) "" =
      undemanding.run (unbudgeted {} (2 * pageSize)) "" := by
  have more : pageSize < 2 * pageSize := by simp [pageSize]
  have refused : ¬ undemanding.Unrefused (unbudgeted {} pageSize) "" := fun unrefused =>
    unrefused (.memory (2 * pageSize)) (by decide) more
  have ran : undemanding.run (unbudgeted {} pageSize) "" =
      .ok { output := "done", error := "", status := 0 } := rfl
  have unstopped : ¬ undemanding.TrapsPastIgnored (unbudgeted {} (2 * pageSize)) "" := by
    rintro ⟨_, -, before, pages, after, same, -⟩
    have among : Action.growMemory pages true ∈ undemanding.actions (arguments "") := by
      rw [same]
      simp
    simp [undemanding] at among
  have unrefused : undemanding.Unrefused (unbudgeted {} (2 * pageSize)) "" := by
    have asks : undemanding.requests (unbudgeted {} (2 * pageSize)) "" =
        [.memory pageSize, .memory (2 * pageSize)] := by decide +kernel
    rw [Program.Unrefused, asks]
    simp [Growth.Exceeds, unbudgeted, pageSize]
  obtain ⟨kept, -, -⟩ := success_kept_under_wider_ceiling undemanding {} "" (Nat.le_of_lt more)
  obtain ⟨-, -, same⟩ := success_kept_under_wider_ceiling undemanding {} ""
    (show 2 * pageSize ≤ 3 * pageSize by decide)
  exact ⟨refused, (kept _ ran).mpr unstopped, unrefused, same unrefused⟩

/-- A program that ignores the refusal of two further pages of memory and then insists on one. -/
def wavering : Program where
  memory := some 1
  table := none
  unresolved := false
  entry := .proper
  actions _ := [.growMemory 2 false, .growMemory 1 true]
  ending := .returns

/-- With a ceiling of two pages it is refused the two and gets the one; with a ceiling of three it
gets the two and is refused the one. -/
theorem wider_ceiling_stops_wavering :
    wavering.run (unbudgeted {} (2 * pageSize)) "" =
        .ok { output := "", error := "", status := 0 } ∧
      wavering.run (unbudgeted {} (3 * pageSize)) "" =
        .error (.memoryLimit "linear memory limit of 196608 bytes reached") :=
  ⟨rfl, rfl⟩

end Scratchpad.Guest
