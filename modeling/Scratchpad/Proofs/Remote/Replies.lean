import Scratchpad.Playground.Panel
import Scratchpad.Proofs.Json.Table
import Scratchpad.Proofs.Playground.LatestRun

/-!
# What comes of a reply

What the panel shows after a remote run, for every body that the service may answer with. The table
of an object names each field once, so going through it meets no field twice: the reply is always
read from the object itself, and each of its two fields depends on the last member of its own name
and on nothing else. `Answers` says so case by case.
-/
namespace Scratchpad

namespace Reply

/-- A name that no entry has finds nothing. -/
theorem lookup_of_absent {name : String} {entries : List (String × Json.Value)}
    (absent : name ∉ entries.map Prod.fst) : entries.lookup name = none := by
  rw [List.lookup_eq_none_iff]
  intro entry among
  exact bne_iff_ne.mpr fun same => absent (same ▸ List.mem_map_of_mem among)

/-- An output that was not met before is met. -/
theorem visit_output {met : Met} (unmet : met.output = none) (value : Json.Value) :
    met.visit ("output", value) = .ok { met with output := some value.string? } := by
  rw [Met.visit, if_pos rfl, unmet]
  rfl

/-- An error that was not met before is met. -/
theorem visit_error {met : Met} (unmet : met.error = none) (value : Json.Value) :
    met.visit ("error", value) = .ok { met with error := some value.string? } := by
  have other : "error" ≠ "output" := by decide
  rw [Met.visit, if_neg other, if_pos rfl, unmet]
  rfl

/-- Any other entry is passed over. -/
theorem visit_other {name : String} (notOutput : name ≠ "output") (notError : name ≠ "error")
    (met : Met) (value : Json.Value) : met.visit (name, value) = .ok met := by
  rw [Met.visit, if_neg notOutput, if_neg notError]
  rfl

/-- Going through entries goes on from where the first one leads. -/
theorem visitAll_cons {met next : Met} {entry : String × Json.Value}
    (visited : met.visit entry = .ok next) (rest : List (String × Json.Value)) :
    met.visitAll (entry :: rest) = next.visitAll rest := by
  rw [Met.visitAll, visited]
  rfl

/-- Going through entries of different names, none of them met before, meets no field twice and
finds the string of each field's entry. -/
theorem visitAll_distinct {entries : List (String × Json.Value)}
    (distinct : (entries.map Prod.fst).Nodup) (met : Met)
    (outputOnce : met.output = none ∨ "output" ∉ entries.map Prod.fst)
    (errorOnce : met.error = none ∨ "error" ∉ entries.map Prod.fst) :
    met.visitAll entries = .ok {
      output := ((entries.lookup "output").map Json.Value.string?).or met.output
      error := ((entries.lookup "error").map Json.Value.string?).or met.error } := by
  induction entries generalizing met with
  | nil => rfl
  | cons entry rest ih =>
    obtain ⟨name, value⟩ := entry
    obtain ⟨fresh, others⟩ := List.nodup_cons.mp distinct
    rw [List.map_cons, List.mem_cons, not_or] at outputOnce errorOnce
    have errorLater := errorOnce.imp_right And.right
    have outputLater := outputOnce.imp_right And.right
    by_cases isOutput : name = "output"
    · subst isOutput
      have unmet : met.output = none := outputOnce.resolve_right fun other => other.1 rfl
      rw [visitAll_cons (visit_output unmet value),
        ih others { met with output := some value.string? } (.inr fresh) errorLater,
        lookup_of_absent fresh, unmet]
      rfl
    · by_cases isError : name = "error"
      · subst isError
        have unmet : met.error = none := errorOnce.resolve_right fun other => other.1 rfl
        rw [visitAll_cons (visit_error unmet value),
          ih others { met with error := some value.string? } outputLater (.inr fresh),
          lookup_of_absent fresh, unmet]
        rfl
      · rw [visitAll_cons (visit_other isOutput isError met value),
          ih others met outputLater errorLater, List.lookup_cons, List.lookup_cons,
          beq_false_of_ne (Ne.symm isOutput), beq_false_of_ne (Ne.symm isError)]

/-- The table of an object is always a reply: that of the strings of its two entries. -/
theorem ofTable_table (members : List (String × Json.Value)) :
    ofTable (Json.table members) = .ok {
      output := ((Json.table members).lookup "output").bind Json.Value.string?
      error := ((Json.table members).lookup "error").bind Json.Value.string? } := by
  rw [ofTable, visitAll_distinct (Json.nodup_table members) {} (.inl rfl) (.inl rfl)]
  have joined : ∀ found : Option Json.Value,
      ((found.map Json.Value.string?).or none).join = found.bind Json.Value.string? := by
    intro found
    cases found <;> simp
  exact congrArg Except.ok (congrArg₂ Reply.mk (joined _) (joined _))

/-- A value is a string exactly if it is that text. -/
theorem string_eq_some {value : Json.Value} {text : String} :
    value.string? = some text ↔ value = .text text := by
  cases value <;> simp [Json.Value.string?]

/-- The entry of a name is a string exactly if the last member of the name is that string. -/
theorem entry_eq_some {name text : String} {members : List (String × Json.Value)} :
    ((Json.table members).lookup name).bind Json.Value.string? = some text ↔
      Json.IsLast name (.text text) members := by
  rw [Option.bind_eq_some_iff, ← Json.lookup_table]
  constructor
  · rintro ⟨value, found, isText⟩
    rwa [string_eq_some.mp isText] at found
  · exact fun found => ⟨.text text, found, rfl⟩

end Reply

/-- What comes of a body: the reply that it is read as, and what the panel shows of it. -/
structure Answers (body : List UInt8) (reply : Except Failure Reply) (shown : String) : Prop where
  /-- A body that is no JSON text is a malformed reply, and the panel shows a fixed text. -/
  rejected : ∀ fault, Json.parse body = .error fault →
    reply = .error (.malformedReply fault) ∧ shown = unreachableText
  /-- An object is read through its table, and each field is the string of the last member of its
  name, if that is a string. -/
  object : ∀ members, Json.parse body = .ok (.object members) → ∃ read,
    Reply.ofTable (Json.table members) = .ok read ∧ reply = .ok read ∧
    (∀ text, read.output = some text ↔ Json.IsLast "output" (.text text) members) ∧
    (∀ text, read.error = some text ↔ Json.IsLast "error" (.text text) members)
  /-- Any other JSON value is a reply without fields. -/
  other : ∀ value, Json.parse body = .ok value → (∀ members, value ≠ .object members) →
    reply = .ok {}
  /-- The panel shows the first field that is present and not empty, and else nothing. -/
  shows : ∀ read, reply = .ok read →
    shown = ((read.output.toList ++ read.error.toList).find? (· ≠ "")).getD ""

/-- The reply of a body, and what is shown of it, are what comes of the body. -/
theorem answers_parse (body : List UInt8) :
    Answers body (Reply.parse body) (Delivery.answered body).text := by
  have read : ∀ value, Json.parse body = .ok value →
      Reply.parse body = .ok (Reply.ofValue value) := by
    intro value parsed
    rw [Reply.parse, parsed]
  refine ⟨?_, ?_, ?_, ?_⟩
  · intro fault refused
    have malformed : Reply.parse body = .error (.malformedReply fault) := by
      rw [Reply.parse, refused]
    refine ⟨malformed, ?_⟩
    rw [Delivery.text, Delivery.reply, malformed]
  · intro members parsed
    have table := Reply.ofTable_table members
    refine ⟨_, table, ?_, fun text => Reply.entry_eq_some, fun text => Reply.entry_eq_some⟩
    rw [read _ parsed, Reply.ofValue, table]
  · intro value parsed notObject
    rw [read value parsed]
    cases value with
    | object members => exact absurd rfl (notObject members)
    | _ => rfl
  · intro reply parsed
    rw [Delivery.text, Delivery.reply, parsed]
    exact reply.text_eq_find

/-- The body of an answer alone decides what a panel shows after a remote run, whatever the status,
the code, and everything else that the panel, its playground and the service hold. -/
theorem remote_run_shows_body (body : List UInt8) :
    ∃ shown, Answers body (Reply.parse body) shown ∧
      ∀ (playground : Playground Backend) (remote : Remote) (status : Nat) (later : List Delivery)
        (thread : Nat) (code : String),
        let asked : Remote := { remote with deliveries := .ofAnswer status body :: later }
        let panel : Panel Backend :=
          { language := .python, code, playground := { playground with python := .remote asked } }
        (asked.execute code).1 = Reply.parse body ∧ panel.runText thread = shown := by
  refine ⟨_, answers_parse body, ?_⟩
  intro playground remote status later thread code asked panel
  exact ⟨rfl, Playground.output_run_remote panel.playground rfl thread code⟩

/-- A field that is no string is absent, and the last of two members of a name is read. -/
example : Reply.parse (Text.Utf8.bytes
    "\x7b\"output\": 3, \"error\": \"old\", \"error\": \"boom\"\x7d") =
    .ok { error := some "boom" } := by
  decide +kernel

/-- A body that is cut off in the middle is rejected. -/
example : (Delivery.answered (Text.Utf8.bytes "\x7b\"output\": \"4")).text =
    "Error: Could not reach backend server." := by
  decide +kernel

end Scratchpad
