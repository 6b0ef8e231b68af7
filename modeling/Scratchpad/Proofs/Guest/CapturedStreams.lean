import Scratchpad.Proofs.Guest.Conduct
import Scratchpad.Proofs.Guest.Overrun
import Scratchpad.Proofs.Text.CutTexts

/-!
# The captured streams of a run

What is captured of a stream is read from the first bytes that were written to it, up to the ceiling
of one stream. How the bytes were split into writes, what was written to the other stream between
them, what was asked for and how the run came to its end does not come into it. If the bytes are
those of a text, the text is shown as far as it fits.
-/
namespace Scratchpad.Guest

open Text.Utf8 (LossyReading ShownCut)

/-- The text captured of a stream. -/
def Captured.text (captured : Captured) : Stream → String
  | .output => captured.output
  | .error => captured.error

/-- Exchanges add the bytes of their actions to what was written to a stream. -/
theorem Conduct.Leads.written {conduct : Conduct} {settings : InterpreterSettings}
    {opened state : State} {trace : List Exchange}
    (led : conduct.Leads settings opened trace state) (stream : Stream) :
    state.written stream =
      opened.written stream ++ trace.flatMap fun exchange => exchange.action.bytesTo stream := by
  induction led with
  | start => rw [List.flatMap_nil, List.append_nil]
  | @act trace state action led next ih =>
    rw [State.written_perform, ih, List.flatMap_append, List.append_assoc, List.flatMap_singleton]
    rfl

namespace Reactive.Run

variable {guest : Reactive} {settings : InterpreterSettings} {code : String}

/-- The bytes that a run writes to a stream, one write after the other. -/
def bytesTo (run : guest.Run settings code) (stream : Stream) : List UInt8 :=
  run.trace.flatMap fun exchange => exchange.action.bytesTo stream

/-- What is written to a stream at the end of a run are the bytes that the run writes to it. -/
theorem written_last (run : guest.Run settings code) (stream : Stream) :
    run.last.written stream = run.bytesTo stream := by
  rw [run.led.written stream, State.written_opened run.started stream, List.nil_append, bytesTo]

/-- The text captured of a stream is decoded from the first bytes that the run writes to it. -/
theorem text_eq (run : guest.Run settings code) {captured : Captured}
    (ended : run.result = .ok captured) (stream : Stream) :
    (captured.text stream).toList =
      Text.Utf8.decodeLossy ((run.bytesTo stream).take settings.maxOutput) := by
  obtain ⟨output, error⟩ := run.captured_eq ended
  cases stream with
  | output => rw [Captured.text, output, written_last, Text.Utf8.lossyString, String.toList_ofList]
  | error => rw [Captured.text, error, written_last, Text.Utf8.lossyString, String.toList_ofList]

/-- What is captured of a stream of a run that ends with a status. -/
structure ShowsFront (run : guest.Run settings code) (captured : Captured) (stream : Stream) :
    Prop where
  /-- The text is the lossy reading of the first bytes, as many as the ceiling allows. -/
  read : LossyReading
    ((run.bytesTo stream).take (min (run.bytesTo stream).length settings.maxOutput))
    (captured.text stream).toList
  /-- No other run with the same ceiling and the same bytes shows another text. -/
  alone : ∀ {other : Reactive} {settings' : InterpreterSettings} {code' : String}
    (run' : other.Run settings' code') (captured' : Captured), run'.result = .ok captured' →
    settings'.maxOutput = settings.maxOutput → run'.bytesTo stream = run.bytesTo stream →
    captured'.text stream = captured.text stream
  /-- If the bytes are those of a text, the text is shown as far as it fits. -/
  shown : ∀ text : String, Text.Utf8.bytes text = run.bytesTo stream →
    ShownCut settings.maxOutput text.toList (captured.text stream).toList

end Reactive.Run

/-- Whatever a guest writes in a run that ends with a status, each stream shows the front of the
bytes written to it and nothing else. -/
theorem streams_show_fronts {guest : Reactive} {settings : InterpreterSettings} {code : String}
    (run : guest.Run settings code) {captured : Captured} (ended : run.result = .ok captured)
    (stream : Stream) : run.ShowsFront captured stream where
  read := by
    have front : (run.bytesTo stream).take (min (run.bytesTo stream).length settings.maxOutput) =
        (run.bytesTo stream).take settings.maxOutput := by
      rw [Nat.min_comm, ← List.take_take, List.take_length]
    rw [front]
    exact Text.Utf8.lossyReading_iff.mpr (run.text_eq ended stream).symm
  alone run' captured' ended' ceiling bytes := by
    have same := run'.text_eq ended' stream
    rw [ceiling, bytes, ← run.text_eq ended stream] at same
    exact String.toList_inj.mp same
  shown text bytes := by
    rw [run.text_eq ended stream, ← bytes, Text.Utf8.bytes_eq_encode]
    exact Text.Utf8.shownCut_take settings.maxOutput text.toList

/-- A program that writes a character of two bytes in two writes, with a line to the other stream
between them. -/
def stutterer : Program where
  memory := some 1
  table := none
  unresolved := false
  entry := .proper
  actions _ := [.write .output [0x61, 0xC3], .write .error (Text.Utf8.bytes "é\n"),
    .write .output [0xA9, 0x62]]
  ending := .exits 1

/-- With a ceiling of two bytes the program ends with a status. It has written a text of four bytes,
of which the first character and a replacement for the second are shown; of the other stream all
that fits is shown. -/
theorem streams_show_fronts_stutterer :
    ∃ (run : stutterer.reactive.Run { maxOutput := 2 } "") (captured : Captured),
      run.result = .ok captured ∧ Text.Utf8.bytes "aéb" = run.bytesTo .output ∧
      ShownCut 2 "aéb".toList "a\uFFFD".toList ∧ captured.error = "é" ∧
      run.ShowsFront captured .output ∧ run.ShowsFront captured .error := by
  have started : stutterer.opened { maxOutput := 2 } = .ok _ := rfl
  obtain ⟨run, reported, does⟩ := Program.exists_run started ""
  have ended : run.result = .ok { output := "a\uFFFD", error := "é", status := 1 } :=
    reported.trans (by decide +kernel)
  have written : Text.Utf8.bytes "aéb" = run.bytesTo .output := by
    rw [← run.written_last, (does rfl).1]
    decide +kernel
  have front := streams_show_fronts run ended .output
  exact ⟨run, _, ended, written, front.shown "aéb" written, rfl, front,
    streams_show_fronts run ended .error⟩

end Scratchpad.Guest
