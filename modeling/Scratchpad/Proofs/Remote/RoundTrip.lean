import Scratchpad.Proofs.Json.Writing
import Scratchpad.Proofs.Remote.Replies

/-!
# To the service and back

No text is changed on its way to the service or back. The body of a request is read as an object
that holds the code and nothing else; whichever way a service spells its two fields, they are read
as they were meant; and so a service that answers with the code it got has the panel show the code.
-/
namespace Scratchpad

namespace Reply

/-- A request is read as an object with the code as its only member. -/
theorem parse_requestBody (code : String) :
    Json.parse (Text.Utf8.bytes (requestBody code)) = .ok (.object [("code", .text code)]) :=
  Json.parse_spelled (Json.spells_render [("code", code)])

/-- An object of strings is read as the reply of its table, however it is spelled. -/
theorem parse_object {list : List (String × String)} {body : List UInt8}
    (spelled : Json.SpellsObject list body) :
    Reply.parse body = .ok (ofValue (.object (Json.textMembers list))) := by
  rw [Reply.parse, Json.parse_spelled spelled]

/-- A service answers every request with an object whose output is the code of the request. -/
def Echoes (serve : List UInt8 → List UInt8) : Prop :=
  ∀ request code, Json.parse request = .ok (.object [("code", .text code)]) →
    Json.SpellsObject [("output", code)] (serve request)

/-- A service that writes its answer in the shortest form. -/
def echo (request : List UInt8) : List UInt8 :=
  match Json.parse request with
  | .ok (.object [("code", .text code)]) =>
    Text.Utf8.bytes (Json.render (.object [("output", .text code)]))
  | _ => []

/-- That service answers with the code it got. -/
theorem echoes_echo : Echoes echo := by
  intro request code read
  rw [echo, read]
  exact Json.spells_render [("output", code)]

end Reply

/-- Texts are the same after they went over the wire: the code of a request, the fields of a reply
in whichever way they are spelled, and hence a code that a service answers with. -/
theorem wire_keeps_texts :
    (∀ code, Json.parse (Text.Utf8.bytes (Reply.requestBody code)) =
      .ok (.object [("code", .text code)])) ∧
    (∀ output error body, Json.SpellsObject [("output", output), ("error", error)] body →
      Reply.parse body = .ok { output := some output, error := some error }) ∧
    (∀ output error,
      Json.SpellsObject [("output", output), ("error", error)] (Text.Utf8.bytes
        (Json.render (.object [("output", .text output), ("error", .text error)]))) ∧
      ∃ body, Json.SpellsObject [("output", output), ("error", error)] body ∧
        Json.IsAscii body) ∧
    (∀ serve, Reply.Echoes serve →
      ∀ (playground : Playground Backend) (remote : Remote) (status : Nat) (later : List Delivery)
        (thread : Nat) (code : String),
        let sent := Text.Utf8.bytes (Reply.requestBody code)
        let asked : Remote := { remote with deliveries := .ofAnswer status (serve sent) :: later }
        let panel : Panel Backend :=
          { language := .python, code, playground := { playground with python := .remote asked } }
        (asked.execute code).2.arrived = remote.arrived ++ [Reply.requestBody code] ∧
        panel.runText thread = code) := by
  refine ⟨Reply.parse_requestBody, ?_, ?_, ?_⟩
  · intro output error body spelled
    rw [Reply.parse_object spelled]
    rfl
  · intro output error
    exact ⟨Json.spells_render [("output", output), ("error", error)],
      Json.exists_ascii_spellsObject ("output", output) [("error", error)]⟩
  · intro serve echoes playground remote status later thread code sent asked panel
    refine ⟨rfl, ?_⟩
    have answer := echoes sent code (Reply.parse_requestBody code)
    have shown : panel.runText thread = (Delivery.answered (serve sent)).text :=
      Playground.output_run_remote panel.playground rfl thread code
    rw [shown, Delivery.text, Delivery.reply, Reply.parse_object answer]
    change (if code ≠ "" then code else "") = code
    split_ifs with nonempty
    · rfl
    · exact (not_not.mp nonempty).symm

/-- A reply with white space, a raw character, a letter, a pair of surrogates and a control
character by its code is read as it was meant, and a panel shows such a code again. -/
theorem wire_keeps_texts_surrogates :
    Reply.parse (Text.Utf8.bytes
      " \x7b\"output\" :\t\"é\\n\\ud83d\\uDE00\" , \"error\":\"\\u0001\"\x7d\n") =
      .ok { output := some "é\n😀", error := some "\x01" } ∧
    ∀ (playground : Playground Backend) (remote : Remote) (thread : Nat),
      Panel.runText { language := .python, code := "print(\"é\\😀\")\n", playground :=
        { playground with python := Backend.remote { remote with deliveries := [.ofAnswer 200
          (Reply.echo (Text.Utf8.bytes (Reply.requestBody "print(\"é\\😀\")\n")))] } } }
        thread = "print(\"é\\😀\")\n" := by
  have zero : Json.HexDigit 0 48 := .decimal 0 (by decide)
  have lead : Json.UnitDigits 0xD83D [100, 56, 51, 100] :=
    .four (.small 13 (by decide) (by decide)) (.decimal 8 (by decide)) (.decimal 3 (by decide))
      (.small 13 (by decide) (by decide))
  have trail : Json.UnitDigits 0xDE00 [68, 69, 48, 48] :=
    .four (.capital 13 (by decide) (by decide)) (.capital 14 (by decide) (by decide)) zero zero
  have control : Json.UnitDigits 1 [48, 48, 48, 49] :=
    .four zero zero zero (.decimal 1 (by decide))
  have output : Json.SpellsChars "é\n😀".toList
      ([195, 169] ++ 92 :: ([110] ++ 92 :: (117 :: [100, 56, 51, 100] ++
        92 :: 117 :: [68, 69, 48, 48] ++ []))) :=
    have line : ('\n', 'n') ∈ Json.letters := by decide
    .raw (by decide) (.escaped (.letter line) (.escaped (.pair (by decide) lead trail) .nil))
  have error : Json.SpellsChars "\x01".toList (92 :: (117 :: [48, 48, 48, 49] ++ [])) :=
    .escaped (.unit (by decide) control) .nil
  have spelled : Json.SpellsObject [("output", "é\n😀"), ("error", "\x01")] (Text.Utf8.bytes
      " \x7b\"output\" :\t\"é\\n\\ud83d\\uDE00\" , \"error\":\"\\u0001\"\x7d\n") := by
    rw [Text.Utf8.bytes_eq_encode]
    have none : Json.Spaces [] := Json.spaces_nil
    have space : Json.Spaces [32] := by simp [Json.Spaces]
    have tab : Json.Spaces [9] := by simp [Json.Spaces]
    have newline : Json.Spaces [10] := by simp [Json.Spaces]
    have members := Json.SpellsMembers.more
      (.spaced none (Json.spells_escapes "output".toList) space tab output space)
      (.one (.spaced space (Json.spells_escapes "error".toList) none none error none))
    exact .full space members newline
  refine ⟨wire_keeps_texts.2.1 "é\n😀" "\x01" _ spelled, ?_⟩
  intro playground remote thread
  exact (wire_keeps_texts.2.2.2 Reply.echo Reply.echoes_echo playground remote 200 [] thread
    "print(\"é\\😀\")\n").2

end Scratchpad
