import Scratchpad.Json.Writer
import Scratchpad.Proofs.Json.Spelling

/-!
# What is written is a spelling

The shortest form of an object of strings is one of its spellings, and so is a form in which nothing
but ASCII occurs, where every character is given by its code. Reading back what was written is then
a case of reading every spelling.
-/
namespace Scratchpad.Json

open Scratchpad.Text (Utf8.encode)

/-! ## The shortest form -/

/-- The digit of a value is a hexadecimal digit of it, in one byte. -/
theorem hexDigit_spelled {value : Nat} (small : value < 16) :
    Utf8.encode [hexDigit value] = [code (hexDigit value)] ∧
      HexDigit value (code (hexDigit value)) := by
  by_cases decimal : value < 10
  · have digit : code (hexDigit value) = UInt8.ofNat (48 + value) := by interval_cases value <;> rfl
    refine ⟨by interval_cases value <;> rfl, ?_⟩
    rw [digit]
    exact .decimal value decimal
  · have digit : code (hexDigit value) = UInt8.ofNat (87 + value) := by interval_cases value <;> rfl
    refine ⟨by interval_cases value <;> rfl, ?_⟩
    rw [digit]
    exact .small value (Nat.le_of_not_lt decimal) small

/-- What is written for a character spells that character. -/
theorem spells_escapeChar (c : Char) {chars : List Char} {rest : List UInt8}
    (spelled : SpellsChars chars rest) :
    SpellsChars (c :: chars) (Utf8.encode (escapeChar c) ++ rest) := by
  rw [escapeChar]
  split_ifs with quote slash printable backspace feed line carriage tab
  · subst quote
    exact .escaped (.letter (by decide)) spelled
  · subst slash
    exact .escaped (.letter (by decide)) spelled
  · have plain : isPlainChar c = true := by
      simp [isPlainChar, quote, slash, printable]
    rw [Text.Utf8.encode_cons, Text.Utf8.encode_nil, List.append_nil]
    exact .raw plain spelled
  · have same : c = Char.ofNat 8 := by rw [← backspace, Char.ofNat_toNat]
    subst same
    exact .escaped (.letter (by decide)) spelled
  · have same : c = Char.ofNat 12 := by rw [← feed, Char.ofNat_toNat]
    subst same
    exact .escaped (.letter (by decide)) spelled
  · subst line
    exact .escaped (.letter (by decide)) spelled
  · subst carriage
    exact .escaped (.letter (by decide)) spelled
  · subst tab
    exact .escaped (.letter (by decide)) spelled
  · obtain ⟨high, highDigit⟩ := hexDigit_spelled (show c.toNat / 16 < 16 by omega)
    obtain ⟨low, lowDigit⟩ := hexDigit_spelled (show c.toNat % 16 < 16 by omega)
    have digits : UnitDigits c.toNat
        [code '0', code '0', code (hexDigit (c.toNat / 16)), code (hexDigit (c.toNat % 16))] := by
      have whole : ((0 * 16 + 0) * 16 + c.toNat / 16) * 16 + c.toNat % 16 = c.toNat := by omega
      have zero : HexDigit 0 (code '0') := .decimal 0 (by decide)
      have four := UnitDigits.four zero zero highDigit lowDigit
      rwa [whole] at four
    have written : Utf8.encode ['\\', 'u', '0', '0', hexDigit (c.toNat / 16),
        hexDigit (c.toNat % 16)] = code '\\' :: code 'u' :: code '0' :: code '0' ::
        (Utf8.encode [hexDigit (c.toNat / 16)] ++ Utf8.encode [hexDigit (c.toNat % 16)]) := by
      rw [← Text.Utf8.encode_append]
      rfl
    rw [written, high, low]
    exact .escaped (.unit (by omega) digits) spelled

/-- What is written for the characters of a string spells the string. -/
theorem spells_escapes (chars : List Char) :
    SpellsChars chars (Utf8.encode (chars.flatMap escapeChar)) := by
  induction chars with
  | nil => exact .nil
  | cons c chars ih =>
    rw [List.flatMap_cons, Text.Utf8.encode_append]
    exact spells_escapeChar c ih

/-- A string is written between quotes. -/
theorem encode_quote (text : String) (rest : List Char) :
    Utf8.encode (quote text ++ rest) = code '"' ::
      (Utf8.encode (text.toList.flatMap escapeChar) ++ code '"' :: Utf8.encode rest) := by
  rw [quote, List.cons_append, List.cons_append, Text.Utf8.encode_cons, List.append_assoc,
    Text.Utf8.encode_append]
  rfl

/-- A member is written without white space. -/
theorem spells_member (name value : String) :
    SpellsMember (name, value) (Utf8.encode (quote name ++ ':' :: quote value)) := by
  have written : Utf8.encode (quote name ++ ':' :: quote value) =
      [] ++ code '"' :: (Utf8.encode (name.toList.flatMap escapeChar) ++ code '"' ::
        ([] ++ code ':' :: ([] ++ code '"' ::
          (Utf8.encode (value.toList.flatMap escapeChar) ++ code '"' :: [])))) := by
    rw [encode_quote, Text.Utf8.encode_cons, ← List.append_nil (quote value), encode_quote]
    rfl
  rw [written]
  exact .spaced spaces_nil (spells_escapes _) spaces_nil spaces_nil (spells_escapes _) spaces_nil

/-- Members are written with a comma between each two. -/
theorem spells_members (member : String × String) (list : List (String × String)) :
    SpellsMembers (member :: list)
      (Utf8.encode (commaSeparated (writeMembers (textMembers (member :: list))))) := by
  induction list generalizing member with
  | nil => exact .one (spells_member member.1 member.2)
  | cons next list ih =>
    have written :
        Utf8.encode (commaSeparated (writeMembers (textMembers (member :: next :: list)))) =
        Utf8.encode (quote member.1 ++ ':' :: quote member.2) ++
          code ',' :: Utf8.encode (commaSeparated (writeMembers (textMembers (next :: list)))) := by
      change Utf8.encode ((quote member.1 ++ ':' :: quote member.2) ++
        ',' :: commaSeparated (writeMembers (textMembers (next :: list)))) = _
      rw [Text.Utf8.encode_append, Text.Utf8.encode_cons]
      rfl
    rw [written]
    exact .more (spells_member member.1 member.2) (ih next)

/-- What is written for an object of strings is a spelling of it. -/
theorem spells_render (list : List (String × String)) :
    SpellsObject list (Text.Utf8.bytes (render (.object (textMembers list)))) := by
  have written : Text.Utf8.bytes (render (.object (textMembers list))) =
      [] ++ code '\x7b' :: (Utf8.encode (commaSeparated (writeMembers (textMembers list))) ++
        code '\x7d' :: []) := by
    rw [Text.Utf8.bytes_eq_encode, render, String.toList_ofList, write, List.cons_append,
      Text.Utf8.encode_cons, Text.Utf8.encode_append]
    rfl
  rw [written]
  cases list with
  | nil => exact .empty spaces_nil spaces_nil spaces_nil
  | cons member list => exact .full spaces_nil (spells_members member list) spaces_nil

/-! ## A form without characters beyond ASCII -/

/-- Every byte is below 128. -/
def IsAscii (bytes : List UInt8) : Prop := ∀ byte ∈ bytes, byte.toNat < 128

theorem IsAscii.append {first second : List UInt8} (start : IsAscii first)
    (after : IsAscii second) : IsAscii (first ++ second) :=
  fun byte among => (List.mem_append.mp among).elim (start byte) (after byte)

theorem IsAscii.cons {byte : UInt8} {bytes : List UInt8} (first : byte.toNat < 128)
    (after : IsAscii bytes) : IsAscii (byte :: bytes) :=
  fun _ among => (List.mem_cons.mp among).elim (fun same => same ▸ first) (after _)

/-- Every value below sixteen has a digit. -/
theorem exists_hexDigit {value : Nat} (small : value < 16) :
    ∃ digit, HexDigit value digit ∧ digit.toNat < 128 := by
  refine ⟨_, (hexDigit_spelled small).2, ?_⟩
  interval_cases value <;> decide

/-- Every 16-bit unit has its four digits. -/
theorem exists_unitDigits {unit : Nat} (narrow : unit < 0x10000) :
    ∃ digits, UnitDigits unit digits ∧ IsAscii digits := by
  obtain ⟨first, isFirst, smallFirst⟩ := exists_hexDigit (show unit / 4096 < 16 by omega)
  obtain ⟨second, isSecond, smallSecond⟩ := exists_hexDigit (show unit / 256 % 16 < 16 by omega)
  obtain ⟨third, isThird, smallThird⟩ := exists_hexDigit (show unit / 16 % 16 < 16 by omega)
  obtain ⟨fourth, isFourth, smallFourth⟩ := exists_hexDigit (show unit % 16 < 16 by omega)
  have whole : ((unit / 4096 * 16 + unit / 256 % 16) * 16 + unit / 16 % 16) * 16 + unit % 16 =
      unit := by omega
  have four := UnitDigits.four isFirst isSecond isThird isFourth
  rw [whole] at four
  refine ⟨_, four, ?_⟩
  exact .cons smallFirst (.cons smallSecond (.cons smallThird (.cons smallFourth nofun)))

/-- Every character can be escaped, the ones beyond the first plane by a pair of surrogates. -/
theorem exists_escapesChar (c : Char) : ∃ bytes, EscapesChar c bytes ∧ IsAscii bytes := by
  have valid : c.toNat < 0xD800 ∨ 0xDFFF < c.toNat ∧ c.toNat < 0x110000 := c.valid
  by_cases narrow : c.toNat < 0x10000
  · obtain ⟨digits, spelled, ascii⟩ := exists_unitDigits narrow
    exact ⟨_, .unit narrow spelled, .cons (by decide) ascii⟩
  · obtain ⟨lead, spelledLead, asciiLead⟩ :=
      exists_unitDigits (show 0xD800 + (c.toNat - 0x10000) / 0x400 < 0x10000 by omega)
    obtain ⟨trail, spelledTrail, asciiTrail⟩ :=
      exists_unitDigits (show 0xDC00 + (c.toNat - 0x10000) % 0x400 < 0x10000 by omega)
    refine ⟨_, .pair (Nat.le_of_not_lt narrow) spelledLead spelledTrail, ?_⟩
    exact .append (.cons (by decide) asciiLead) (.cons (by decide) (.cons (by decide) asciiTrail))

/-- Every string has a spelling in ASCII. -/
theorem exists_ascii_spellsChars (chars : List Char) :
    ∃ bytes, SpellsChars chars bytes ∧ IsAscii bytes := by
  induction chars with
  | nil => exact ⟨[], .nil, nofun⟩
  | cons c chars ih =>
    obtain ⟨rest, spelled, asciiRest⟩ := ih
    obtain ⟨bytes, escaped, ascii⟩ := exists_escapesChar c
    exact ⟨_, .escaped escaped spelled, .cons (by decide) (ascii.append asciiRest)⟩

/-- Every member has a spelling in ASCII. -/
theorem exists_ascii_spellsMember (member : String × String) :
    ∃ bytes, SpellsMember member bytes ∧ IsAscii bytes := by
  obtain ⟨name, spelledName, asciiName⟩ := exists_ascii_spellsChars member.1.toList
  obtain ⟨value, spelledValue, asciiValue⟩ := exists_ascii_spellsChars member.2.toList
  refine ⟨_, .spaced spaces_nil spelledName spaces_nil spaces_nil spelledValue spaces_nil, ?_⟩
  exact .cons (by decide) (asciiName.append (.cons (by decide) (.cons (by decide)
    (.cons (by decide) (asciiValue.append (.cons (by decide) nofun))))))

/-- Every object of strings that has a member has a spelling in ASCII. -/
theorem exists_ascii_spellsObject (member : String × String) (list : List (String × String)) :
    ∃ bytes, SpellsObject (member :: list) bytes ∧ IsAscii bytes := by
  have inner : ∃ bytes, SpellsMembers (member :: list) bytes ∧ IsAscii bytes := by
    induction list generalizing member with
    | nil =>
      obtain ⟨bytes, spelled, ascii⟩ := exists_ascii_spellsMember member
      exact ⟨bytes, .one spelled, ascii⟩
    | cons next list ih =>
      obtain ⟨rest, spelledRest, asciiRest⟩ := ih next
      obtain ⟨bytes, spelled, ascii⟩ := exists_ascii_spellsMember member
      exact ⟨_, .more spelled spelledRest, ascii.append (.cons (by decide) asciiRest)⟩
  obtain ⟨bytes, spelled, ascii⟩ := inner
  refine ⟨_, .full spaces_nil spelled spaces_nil, ?_⟩
  exact .cons (by decide) (ascii.append (.cons (by decide) nofun))

end Scratchpad.Json
