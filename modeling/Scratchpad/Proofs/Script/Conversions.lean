import Scratchpad.Script.Console

/-!
# What the console writes

How the arguments of a call of the console become texts: one after the other, each where the one
before has left the engine and the log, until one of them fails. The conversion of an argument may
run any code of the snippet, so each of these relations also says what comes of the log.
-/
namespace Scratchpad.Script

variable {engine : Engine} (methods : Methods engine.State engine.Value engine.Fault)

/-- Whether a value is missing, so that nothing is written for it. -/
def Engine.IsMissing (engine : Engine) (value : engine.Value) : Prop :=
  engine.isNull value = true ∨ engine.isUndefined value = true

/-- A value is written as a text: a missing one as nothing, and any other as the text that the
engine converts it to. -/
inductive Shows : engine.Value → engine.State → Log → String → engine.State → Log → Prop where
  | missing {value : engine.Value} {state : engine.State} {log : Log} :
      engine.IsMissing value → Shows value state log "" state log
  | text {value : engine.Value} {state after : engine.State} {log last : Log} {text : String} :
      ¬engine.IsMissing value →
      (engine.coerced value).run methods state log = .done text after last →
      Shows value state log text after last

/-- All values of a list are written, in their order. -/
inductive ShowsAll :
    List engine.Value → engine.State → Log → List String → engine.State → Log → Prop where
  | nil {state : engine.State} {log : Log} : ShowsAll [] state log [] state log
  | cons {value : engine.Value} {values : List engine.Value} {state middle after : engine.State}
      {log between last : Log} {text : String} {texts : List String} :
      Shows methods value state log text middle between →
      ShowsAll values middle between texts after last →
      ShowsAll (value :: values) state log (text :: texts) after last

/-- One value of a list cannot be written because its conversion fails, and those before it are. -/
inductive FailsAmong :
    List engine.Value → engine.State → Log → engine.Fault → engine.State → Log → Prop where
  | here {value : engine.Value} {values : List engine.Value} {state after : engine.State}
      {log last : Log} {fault : engine.Fault} : ¬engine.IsMissing value →
      (engine.coerced value).run methods state log = .stopped fault after last →
      FailsAmong (value :: values) state log fault after last
  | later {value : engine.Value} {values : List engine.Value} {state middle after : engine.State}
      {log between last : Log} {text : String} {fault : engine.Fault} :
      Shows methods value state log text middle between →
      FailsAmong values middle between fault after last →
      FailsAmong (value :: values) state log fault after last

variable {methods}

/-- Nothing is done for a missing value. -/
theorem argumentText_missing {value : engine.Value} (missing : engine.IsMissing value) :
    engine.argumentText methods value = pure "" :=
  if_pos (Bool.or_eq_true _ _ ▸ missing)

/-- A value that is there is converted by the engine. -/
theorem argumentText_present {value : engine.Value} (present : ¬engine.IsMissing value) :
    engine.argumentText methods value = (engine.coerced value).run methods :=
  if_neg (Bool.or_eq_true _ _ ▸ present)

/-- A value is written as a text exactly if that is what its conversion yields. -/
theorem shows_iff {value : engine.Value} {state after : engine.State} {log last : Log}
    {text : String} : Shows methods value state log text after last ↔
      engine.argumentText methods value state log = .done text after last := by
  constructor
  · intro shown
    cases shown with
    | missing missing =>
      rw [argumentText_missing missing]
      rfl
    | text present converted => rwa [argumentText_present present]
  · intro ran
    by_cases missing : engine.IsMissing value
    · rw [argumentText_missing missing] at ran
      cases ran
      exact .missing missing
    · rw [argumentText_present missing] at ran
      exact .text missing ran

/-- Values are written exactly as the conversion of the list yields. -/
theorem showsAll_iff {values : List engine.Value} {state after : engine.State} {log last : Log}
    {texts : List String} : ShowsAll methods values state log texts after last ↔
      engine.argumentTexts methods values state log = .done texts after last := by
  induction values generalizing state log texts with
  | nil =>
    constructor
    · intro shown
      cases shown
      rfl
    · intro ran
      cases ran
      exact .nil
  | cons value values ih =>
    rw [Engine.argumentTexts, Step.bind_eq_done]
    constructor
    · intro shown
      cases shown with
      | cons first rest =>
        refine ⟨_, _, _, shows_iff.mp first, ?_⟩
        rw [Step.bind_eq_done]
        exact ⟨_, _, _, ih.mp rest, rfl⟩
    · rintro ⟨text, middle, between, first, ran⟩
      rw [Step.bind_eq_done] at ran
      obtain ⟨others, _, _, rest, ended⟩ := ran
      cases ended
      exact .cons (shows_iff.mpr first) (ih.mpr rest)

/-- Values fail to be written exactly as the conversion of the list is cut short. -/
theorem failsAmong_iff {values : List engine.Value} {state after : engine.State} {log last : Log}
    {fault : engine.Fault} : FailsAmong methods values state log fault after last ↔
      engine.argumentTexts methods values state log = .stopped fault after last := by
  induction values generalizing state log with
  | nil =>
    constructor
    · intro failed
      cases failed
    · intro ran
      cases ran
  | cons value values ih =>
    rw [Engine.argumentTexts, Step.bind_eq_stopped]
    constructor
    · intro failed
      cases failed with
      | here present stopped => exact .inl (by rwa [argumentText_present present])
      | later first rest =>
        refine .inr ⟨_, _, _, shows_iff.mp first, ?_⟩
        rw [Step.bind_eq_stopped]
        exact .inl (ih.mp rest)
    · rintro (stopped | ⟨text, middle, between, first, ran⟩)
      · by_cases missing : engine.IsMissing value
        · rw [argumentText_missing missing] at stopped
          cases stopped
        · rw [argumentText_present missing] at stopped
          exact .here missing stopped
      · rw [Step.bind_eq_stopped] at ran
        obtain rest | ⟨others, _, _, rest, ended⟩ := ran
        · exact .later (shows_iff.mpr first) (ih.mpr rest)
        · cases ended

end Scratchpad.Script
