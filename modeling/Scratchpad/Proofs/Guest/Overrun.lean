import Scratchpad.Guest.Conduct

/-!
# Guests that write beyond the ceiling of a stream

Of each stream a host keeps as many bytes as its ceiling allows. A guest that writes more is told so
by the answer to its write, and nobody else is: the result depends on how the run was stopped and on
the requests for growth, and its texts are those of the bytes that were kept. An overrun is
therefore a failure exactly if the guest makes it one. A guest that goes on to return, or to exit
with status zero, has succeeded, and its texts are cut.
-/
namespace Scratchpad.Guest

/-- An exchange is a write to a stream of which not all bytes were kept. -/
def Exchange.IsRefusedWrite (exchange : Exchange) (stream : Stream) : Prop :=
  (∃ bytes, exchange.action = .write stream bytes) ∧ exchange.granted = false

/-- An action that is no write to a stream writes nothing to it. -/
theorem Action.bytesTo_of_not_write {action : Action} {stream : Stream}
    (other : ¬ ∃ bytes, action = .write stream bytes) : action.bytesTo stream = [] := by
  cases action with
  | write written bytes =>
    have different : written ≠ stream := by
      rintro rfl
      exact other ⟨bytes, rfl⟩
    exact if_neg different
  | growMemory pages required => rfl
  | growTable elements required => rfl

/-- A write is refused exactly if it has bytes and some of them lie beyond the ceiling. -/
theorem isRefusedWrite_exchange (state : State) (settings : InterpreterSettings) (stream : Stream)
    (bytes : List UInt8) :
    (state.exchange settings (.write stream bytes)).IsRefusedWrite stream ↔
      bytes ≠ [] ∧ settings.maxOutput < (state.written stream).length + bytes.length := by
  simp [Exchange.IsRefusedWrite, State.exchange, State.grants]

/-- One more action overruns a stream if the stream was overrun before or the action is a write to
it that is refused. -/
theorem overrun_perform (state : State) (settings : InterpreterSettings) (action : Action)
    (stream : Stream) :
    settings.maxOutput < ((state.perform action).2.written stream).length ↔
      settings.maxOutput < (state.written stream).length ∨
        (state.exchange settings action).IsRefusedWrite stream := by
  rw [State.written_perform, List.length_append]
  by_cases write : ∃ bytes, action = .write stream bytes
  · obtain ⟨bytes, rfl⟩ := write
    rw [isRefusedWrite_exchange, Action.bytesTo, if_pos rfl]
    -- An empty write is never refused, even to a stream that is overrun already.
    by_cases empty : bytes = []
    · simp [empty]
    · have longer : 0 < bytes.length := List.length_pos_iff.mpr empty
      simp only [ne_eq, empty, not_false_eq_true, true_and]
      omega
  · have unrefused : ¬ (state.exchange settings action).IsRefusedWrite stream :=
      fun refused => write refused.1
    rw [Action.bytesTo_of_not_write write, or_iff_left unrefused]
    rfl

/-- A guest has overrun a stream exactly if one of its writes to it was refused. -/
theorem Conduct.Leads.overrun_iff {conduct : Conduct} {settings : InterpreterSettings}
    {opened state : State} {trace : List Exchange} (led : conduct.Leads settings opened trace state)
    {stream : Stream} (fresh : opened.written stream = []) :
    settings.maxOutput < (state.written stream).length ↔
      ∃ exchange ∈ trace, exchange.IsRefusedWrite stream := by
  induction led with
  | start => simp [fresh]
  | @act trace state action led next ih =>
    simp only [overrun_perform state settings action stream, ih, List.mem_append,
      List.mem_singleton, or_and_right, exists_or, exists_eq_left]

/-- Something that is reported is a success: an end with status zero. -/
def Succeeds (result : Except Failure Captured) : Prop :=
  ∃ captured, result = .ok captured ∧ captured.isSuccess = true

namespace Reactive.Run

variable {guest : Reactive} {settings : InterpreterSettings} {code : String}

/-- The guest of a run wrote more to a stream than is kept of it. -/
def Overran (run : guest.Run settings code) : Prop :=
  ∃ stream, settings.maxOutput < (run.last.written stream).length

/-- A write of a run was refused. -/
def WasRefusedWrite (run : guest.Run settings code) : Prop :=
  ∃ stream, ∃ exchange ∈ run.trace, exchange.IsRefusedWrite stream

/-- The guest of a run returns, or exits with status zero with no growth refused before. -/
def EndsWell (run : guest.Run settings code) : Prop :=
  run.stop = .seen .returned ∨
    run.stop = .seen (.exited 0) ∧ ¬ ∃ growth ∈ run.requests, growth.Exceeds settings

/-- The guest of a run overran a stream exactly if it was told so. -/
theorem overran_iff (run : guest.Run settings code) : run.Overran ↔ run.WasRefusedWrite :=
  exists_congr fun stream => run.led.overrun_iff (State.written_opened run.started stream)

/-- A run succeeds exactly if its guest ends well, whatever it wrote. -/
theorem succeeds_iff (run : guest.Run settings code) : Succeeds run.result ↔ run.EndsWell := by
  rw [EndsWell, ← run.tripped_iff, result, Stop.result_eq, Succeeds]
  cases run.stop with
  | interrupted => cases run.last.limiter.tripped <;> simp [Stop.asksLimiter, Stop.calledFor]
  | seen ended =>
    cases ended <;> cases run.last.limiter.tripped <;>
      simp [Stop.asksLimiter, Stop.calledFor, State.capture, Captured.isSuccess]

/-- The texts of a run that ends with a status are those of the first bytes of its streams. -/
theorem captured_eq (run : guest.Run settings code) {captured : Captured}
    (ended : run.result = .ok captured) :
    captured.output = Text.Utf8.lossyString ((run.last.written .output).take settings.maxOutput) ∧
    captured.error = Text.Utf8.lossyString ((run.last.written .error).take settings.maxOutput) := by
  rw [result, Stop.result_eq] at ended
  split at ended
  · cases ended
  · cases stop : run.stop with
    | interrupted =>
      rw [stop] at ended
      cases ended
    | seen seen =>
      rw [stop] at ended
      cases seen <;> cases ended <;> exact ⟨rfl, rfl⟩

end Reactive.Run

/-- A guest is told of its overruns and nobody else is: its run succeeds exactly if it ends well,
with the texts of the bytes that were kept. So every overrun of a guest is a failure exactly if the
guest never ends well after a refused write. -/
theorem overrun_fails_iff_guest_minds (guest : Reactive) (settings : InterpreterSettings) :
    (∀ code, ∀ run : guest.Run settings code,
      (run.Overran ↔ run.WasRefusedWrite) ∧ (Succeeds run.result ↔ run.EndsWell) ∧
      ∀ captured, run.result = .ok captured →
        captured.output =
          Text.Utf8.lossyString ((run.last.written .output).take settings.maxOutput) ∧
        captured.error =
          Text.Utf8.lossyString ((run.last.written .error).take settings.maxOutput)) ∧
    ((∀ code, ∀ run : guest.Run settings code, run.Overran → ¬ Succeeds run.result) ↔
      ∀ code, ∀ run : guest.Run settings code, run.WasRefusedWrite → ¬ run.EndsWell) := by
  refine ⟨fun code run => ⟨run.overran_iff, run.succeeds_iff, fun _ => run.captured_eq⟩, ?_⟩
  refine forall_congr' fun code => forall_congr' fun run => ?_
  rw [run.overran_iff, run.succeeds_iff]

/-- A program that writes three bytes and returns. -/
def chatter : Program where
  memory := some 1
  table := none
  unresolved := false
  entry := .proper
  actions _ := [.write .output [0x61, 0x62, 0x63]]
  ending := .returns

/-- With a ceiling of two bytes, the program succeeds with the first two of its three. -/
theorem cut_output_succeeds :
    ¬ ∀ (program : Program) (settings : InterpreterSettings) (code : String) (opened : State),
      program.opened settings = .ok opened → Succeeds (program.run settings code) →
      ∀ stream, ((opened.performAll (program.actions (arguments code))).2.written stream).length ≤
        settings.maxOutput := by
  intro whole
  have kept := whole chatter { maxOutput := 2 } "" _ rfl ⟨_, rfl, rfl⟩ .output
  revert kept
  decide

end Scratchpad.Guest
