import Mathlib.Data.List.TakeWhile
import Mathlib.Tactic.IntervalCases
import Scratchpad.Json.Spelling
import Scratchpad.Proofs.Text.Utf8

/-!
# Reading every spelling

The reader takes each spelling of an object of strings for that object: `parse_spelled` is stated
over the format and not over a writer. It goes from the leaves up, and every part is read with
whatever follows it, which is how the next part is reached.
-/
namespace Scratchpad.Json

/-! ## White space -/

/-- There may be no white space at all. -/
theorem spaces_nil : Spaces [] := nofun

/-- The reader skips white space up to a byte that is none. -/
theorem skipSpace_append {spaces : List UInt8} (blank : Spaces spaces) {byte : UInt8}
    (solid : isSpace byte = false) (rest : List UInt8) :
    skipSpace (spaces ++ byte :: rest) = byte :: rest := by
  have all : ∀ space ∈ spaces, isSpace space = true := by
    intro space among
    have listed := blank space among
    simp only [List.mem_cons, List.not_mem_nil, or_false] at listed
    rcases listed with rfl | rfl | rfl | rfl <;> rfl
  rw [skipSpace, List.dropWhile_append_of_pos all,
    List.dropWhile_cons_of_neg (by rw [solid]; exact Bool.false_ne_true)]

/-- Nothing is left of white space alone. -/
theorem skipSpace_spaces {spaces : List UInt8} (blank : Spaces spaces) : skipSpace spaces = [] := by
  rw [skipSpace, List.dropWhile_eq_nil_iff]
  intro space among
  have listed := blank space among
  simp only [List.mem_cons, List.not_mem_nil, or_false] at listed
  rcases listed with rfl | rfl | rfl | rfl <;> rfl

/-! ## Escapes -/

/-- A hexadecimal digit is read as its value. -/
theorem hexValue_digit {value : Nat} {digit : UInt8} (spelled : HexDigit value digit) :
    hexValue? digit = some value := by
  cases spelled with
  | decimal small => interval_cases value <;> rfl
  | small least small => interval_cases value <;> rfl
  | capital least small => interval_cases value <;> rfl

/-- The digits of a unit are read as the unit. -/
theorem hexEscape_digits {unit : Nat} {digits : List UInt8} (spelled : UnitDigits unit digits)
    (rest : List UInt8) : hexEscape (digits ++ rest) = .ok (unit, rest) := by
  cases spelled with
  | four first second third fourth =>
    simp only [List.cons_append, List.nil_append, hexEscape, hexValue_digit first,
      hexValue_digit second, hexValue_digit third, hexValue_digit fourth]

/-- A character of one unit is read from the code of that unit. -/
theorem unicodeEscape_unit {c : Char} {digits : List UInt8} (narrow : c.toNat < 0x10000)
    (spelled : UnitDigits c.toNat digits) (rest : List UInt8) :
    unicodeEscape (digits ++ rest) = .ok (c, rest) := by
  have valid : c.toNat < 0xD800 ∨ 0xDFFF < c.toNat ∧ c.toNat < 0x110000 := c.valid
  have lone : ¬ (0xDC00 ≤ c.toNat ∧ c.toNat ≤ 0xDFFF) := by omega
  have whole : c.toNat < 0xD800 ∨ 0xDBFF < c.toNat := by omega
  rw [unicodeEscape, hexEscape_digits spelled rest]
  simp only [bind, Except.bind, Bool.and_eq_true, Bool.or_eq_true, decide_eq_true_eq, if_neg lone,
    if_pos whole, Char.ofNat_toNat]
  rfl

/-- The codes of a pair of surrogates are read as one character. -/
theorem unicodeEscape_pair {first second : Nat} {lead trail : List UInt8}
    (spelledLead : UnitDigits first lead) (spelledTrail : UnitDigits second trail)
    (isLead : 0xD800 ≤ first ∧ first ≤ 0xDBFF) (isTrail : 0xDC00 ≤ second ∧ second ≤ 0xDFFF)
    (rest : List UInt8) :
    unicodeEscape (lead ++ code '\\' :: code 'u' :: (trail ++ rest)) =
      .ok (Char.ofNat (0x10000 + (first - 0xD800) * 0x400 + (second - 0xDC00)), rest) := by
  have notTrail : ¬ (0xDC00 ≤ first ∧ first ≤ 0xDFFF) := by omega
  have paired : ¬ (first < 0xD800 ∨ 0xDBFF < first) := by omega
  have pairs : ¬ (second < 0xDC00 ∨ 0xDFFF < second) := by omega
  rw [unicodeEscape, hexEscape_digits spelledLead]
  simp only [bind, Except.bind, Bool.and_eq_true, Bool.or_eq_true, decide_eq_true_eq,
    if_neg notTrail, if_neg paired, ne_eq, not_true_eq_false, if_false,
    hexEscape_digits spelledTrail, if_neg pairs]
  rfl

/-- The surrogates of a character beyond the first plane stand for that character. -/
theorem joined_surrogates {value : Nat} (wide : 0x10000 ≤ value) :
    0x10000 + (0xD800 + (value - 0x10000) / 0x400 - 0xD800) * 0x400 +
      (0xDC00 + (value - 0x10000) % 0x400 - 0xDC00) = value := by
  omega

/-- What stands for a character after a backslash is read as that character. -/
theorem escape_spelled {c : Char} {bytes : List UInt8} (spelled : EscapesChar c bytes)
    (rest : List UInt8) : escape (bytes ++ rest) = .ok (c, rest) := by
  cases spelled with
  | letter listed =>
    simp only [letters, List.mem_cons, List.not_mem_nil, or_false, Prod.mk.injEq] at listed
    rcases listed with ⟨rfl, rfl⟩ | ⟨rfl, rfl⟩ | ⟨rfl, rfl⟩ | ⟨rfl, rfl⟩ | ⟨rfl, rfl⟩ |
      ⟨rfl, rfl⟩ | ⟨rfl, rfl⟩ | ⟨rfl, rfl⟩ <;> rfl
  | unit narrow digits => exact unicodeEscape_unit narrow digits rest
  | pair wide lead trail =>
    have valid : c.toNat < 0xD800 ∨ 0xDFFF < c.toNat ∧ c.toNat < 0x110000 := c.valid
    have read := unicodeEscape_pair lead trail (by omega) (by omega) rest
    rw [joined_surrogates wide, Char.ofNat_toNat] at read
    rw [List.append_assoc]
    exact read

/-! ## Strings -/

/-- The bytes of a character that may stand for itself may stand for themselves. -/
theorem isPlain_of_mem_encodeChar {c : Char} (plain : isPlainChar c = true) {byte : UInt8}
    (among : byte ∈ String.utf8EncodeChar c) : isPlain byte = true := by
  simp only [isPlainChar, Bool.and_eq_true, decide_eq_true_eq] at plain
  obtain ⟨⟨printable, unquoted⟩, unslashed⟩ := plain
  have notQuote : c.toNat ≠ 34 := fun same => unquoted (Char.toNat_inj.mp same)
  have notSlash : c.toNat ≠ 92 := fun same => unslashed (Char.toNat_inj.mp same)
  have bounds : 32 ≤ byte.toNat ∧ byte.toNat ≠ 34 ∧ byte.toNat ≠ 92 := by
    by_cases wide : 127 < c.toNat
    · have high := Text.Utf8.le_of_mem_encodeChar wide among
      omega
    · rw [Text.Utf8.encodeChar_of_ascii (by omega), List.mem_singleton] at among
      rw [among, Text.Utf8.toNat_byte (by omega)]
      exact ⟨printable, notQuote, notSlash⟩
  simp only [isPlain, Bool.and_eq_true, decide_eq_true_eq]
  refine ⟨⟨UInt8.le_iff_toNat_le.mpr bounds.1, ?_⟩, ?_⟩
  · intro same
    exact bounds.2.1 (congrArg UInt8.toNat same)
  · intro same
    exact bounds.2.2 (congrArg UInt8.toNat same)

/-- A spelling begins with characters that stand for themselves, and then it ends or goes on with
an escape. -/
theorem SpellsChars.split {chars : List Char} {bytes : List UInt8}
    (spelled : SpellsChars chars bytes) : ∃ raw later tail, chars = raw ++ later ∧
      bytes = Text.Utf8.encode raw ++ tail ∧
      (∀ byte ∈ Text.Utf8.encode raw, isPlain byte = true) ∧
      (later = [] ∧ tail = [] ∨ ∃ c after escape rest, later = c :: after ∧
        tail = code '\\' :: (escape ++ rest) ∧ EscapesChar c escape ∧ SpellsChars after rest) := by
  induction spelled with
  | nil => exact ⟨[], [], [], rfl, rfl, nofun, .inl ⟨rfl, rfl⟩⟩
  | @raw c chars rest plain spelled ih =>
    obtain ⟨raw, later, tail, rfl, rfl, plains, ends⟩ := ih
    refine ⟨c :: raw, later, tail, rfl, ?_, ?_, ends⟩
    · rw [Text.Utf8.encode_cons, List.append_assoc]
    · intro byte among
      rw [Text.Utf8.encode_cons, List.mem_append] at among
      exact among.elim (isPlain_of_mem_encodeChar plain) (plains byte)
  | @escaped c chars bytes rest escape spelled =>
    exact ⟨[], _, _, rfl, rfl, nofun, .inr ⟨c, chars, bytes, rest, rfl, rfl, escape, spelled⟩⟩

/-- Parts of a string are put together one after the other. -/
theorem assemble_append {first second : List Piece} {before chars : List Char}
    (assembled : assemble first = .ok before) (added : assemble second = .ok chars) :
    assemble (first ++ second) = .ok (before ++ chars) := by
  induction first generalizing before with
  | nil =>
    cases assembled
    exact added
  | cons piece first ih =>
    cases piece with
    | escaped c =>
      rw [assemble] at assembled
      cases later : assemble first with
      | error stop =>
        rw [later] at assembled
        cases assembled
      | ok after =>
        rw [later] at assembled
        cases assembled
        rw [List.cons_append, assemble, ih later]
        rfl
    | raw bytes left =>
      rw [assemble] at assembled
      cases read : Text.Utf8.decode bytes with
      | error stop =>
        rw [read] at assembled
        cases assembled
      | ok start =>
        rw [read] at assembled
        cases later : assemble first with
        | error stop =>
          rw [later] at assembled
          cases assembled
        | ok after =>
          rw [later] at assembled
          cases assembled
          rw [List.cons_append, assemble, read, ih later, List.append_assoc]
          rfl

/-- The parts found before and a stretch of bytes that stand for themselves, unless it is empty. -/
def afterStretch (found : List Piece) (stretch : List UInt8) (left : Nat) : List Piece :=
  if stretch.isEmpty then found else .raw stretch left :: found

/-- A stretch adds the characters that it encodes. -/
theorem assemble_afterStretch {found : List Piece} {before : List Char}
    (assembled : assemble found.reverse = .ok before) (raw : List Char) (left : Nat) :
    assemble (afterStretch found (Text.Utf8.encode raw) left).reverse = .ok (before ++ raw) := by
  cases raw with
  | nil => rw [afterStretch, Text.Utf8.encode_nil, List.append_nil]; exact assembled
  | cons c raw =>
    have nonempty : (Text.Utf8.encode (c :: raw)).isEmpty = false := by
      rw [List.isEmpty_eq_false_iff, Text.Utf8.encode_cons]
      exact List.append_ne_nil_of_left_ne_nil String.utf8EncodeChar_ne_nil _
    rw [afterStretch, if_neg (by rw [nonempty]; exact Bool.false_ne_true), List.reverse_cons]
    refine assemble_append assembled ?_
    rw [assemble, Text.Utf8.decode_encode, assemble]
    exact congrArg Except.ok (List.append_nil (c :: raw))

/-- The reader of strings passes over a stretch of bytes that stand for themselves. -/
theorem pieces_stretch {stretch : List UInt8} (plain : ∀ byte ∈ stretch, isPlain byte = true)
    {stop : UInt8} (special : isPlain stop = false) (fuel : Nat) (found : List Piece)
    (rest : List UInt8) :
    pieces (fuel + 1) found (stretch ++ stop :: rest) =
      if stop = code '"' then .ok (afterStretch found stretch (rest.length + 1), rest)
      else if stop = code '\\' then do
        let (value, rest') ← escape rest
        pieces fuel (.escaped value :: afterStretch found stretch (rest.length + 1)) rest'
      else faultHere .controlCharacter rest := by
  have ends : isPlain stop ≠ true := by
    rw [special]
    exact Bool.false_ne_true
  rw [pieces, List.takeWhile_append_of_pos plain, List.dropWhile_append_of_pos plain,
    List.takeWhile_cons_of_neg ends, List.dropWhile_cons_of_neg ends, List.append_nil]
  rfl

/-- The parts of every spelling of a string are found and put together to its characters. -/
theorem pieces_spelled (rest : List UInt8) {fuel : Nat} : ∀ {chars : List Char} {inner : List UInt8}
    {found : List Piece} {before : List Char}, SpellsChars chars inner → chars.length < fuel →
    assemble found.reverse = .ok before →
    ∃ parts, pieces fuel found (inner ++ code '"' :: rest) = .ok (parts, rest) ∧
      assemble parts.reverse = .ok (before ++ chars) := by
  induction fuel with
  | zero => exact fun _ short => absurd short (Nat.not_lt_zero _)
  | succ fuel ih =>
    intro chars inner found before spelled short assembled
    obtain ⟨raw, later, tail, rfl, rfl, plain, ends⟩ := spelled.split
    rcases ends with ⟨rfl, rfl⟩ | ⟨c, after, bytes, behind, rfl, rfl, escaped, spelledAfter⟩
    · refine ⟨afterStretch found (Text.Utf8.encode raw) (rest.length + 1), ?_, ?_⟩
      · rw [List.append_nil, pieces_stretch plain rfl, if_pos rfl]
      · rw [List.append_nil]
        exact assemble_afterStretch assembled raw _
    · have closer : after.length < fuel := by
        rw [List.length_append, List.length_cons] at short
        omega
      have grown : assemble (Piece.escaped c :: afterStretch found (Text.Utf8.encode raw)
          ((bytes ++ (behind ++ code '"' :: rest)).length + 1)).reverse =
          .ok (before ++ raw ++ [c]) := by
        rw [List.reverse_cons]
        exact assemble_append (assemble_afterStretch assembled raw _) rfl
      obtain ⟨parts, found', whole⟩ := ih spelledAfter closer grown
      refine ⟨parts, ?_, ?_⟩
      · rw [List.append_assoc, List.cons_append, List.append_assoc, pieces_stretch plain rfl,
          if_neg (by decide), if_pos rfl, escape_spelled escaped]
        exact found'
      · rw [whole, List.append_assoc, List.append_assoc]
        rfl

/-- A string has no more characters than its spelling has bytes. -/
theorem SpellsChars.length_le {chars : List Char} {bytes : List UInt8}
    (spelled : SpellsChars chars bytes) : chars.length ≤ bytes.length := by
  induction spelled with
  | nil => exact Nat.le_refl 0
  | @raw c chars rest plain spelled ih =>
    have one : 0 < (String.utf8EncodeChar c).length :=
      List.length_pos_iff.mpr String.utf8EncodeChar_ne_nil
    rw [List.length_append, List.length_cons]
    omega
  | escaped escape spelled ih =>
    rw [List.length_cons, List.length_cons, List.length_append]
    omega

/-- Every spelling of a string is read as that string. -/
theorem text_spelled {value : String} {inner : List UInt8}
    (spelled : SpellsChars value.toList inner) (rest : List UInt8) :
    text (inner ++ code '"' :: rest) = .ok (value, rest) := by
  have enough : value.toList.length < (inner ++ code '"' :: rest).length + 1 := by
    have short := spelled.length_le
    rw [List.length_append]
    omega
  have nothing : assemble ([] : List Piece).reverse = .ok [] := rfl
  obtain ⟨parts, found, whole⟩ := pieces_spelled rest spelled enough nothing
  rw [text, found]
  change (assemble parts.reverse >>= fun chars => pure (String.ofList chars, rest)) = _
  rw [whole]
  change Except.ok (String.ofList value.toList, rest) = _
  rw [String.ofList_toList]

/-! ## Objects -/

/-- The members of strings as members of values. -/
def textMembers (members : List (String × String)) : List (String × Value) :=
  members.map fun member => (member.1, .text member.2)

theorem textMembers_cons (member : String × String) (list : List (String × String)) :
    textMembers (member :: list) = (member.1, .text member.2) :: textMembers list := rfl

/-- A value that begins with a quote is the string that follows. -/
theorem valueAt_quote (depth : Nat) {spaces : List UInt8} (blank : Spaces spaces)
    {value : String} {inner : List UInt8} (spelled : SpellsChars value.toList inner)
    (rest : List UInt8) :
    valueAt depth (spaces ++ code '"' :: (inner ++ code '"' :: rest)) =
      .ok (.text value, rest) := by
  rw [valueAt, skipSpace_append blank rfl]
  dsimp only
  rw [if_neg (by decide), if_neg (by decide), if_neg (by decide), if_neg (by decide),
    if_pos rfl, text_spelled spelled]
  rfl

/-- A member is read from its opening quote on, and the white space after its value is left. -/
theorem member_spelled (depth : Nat) {member : String × String} {bytes : List UInt8}
    (spelled : SpellsMember member bytes) : ∃ before inner after, Spaces before ∧ Spaces after ∧
      bytes = before ++ code '"' :: inner ∧ ∀ rest, Json.member (valueAt depth) (inner ++ rest) =
        .ok ((member.1, .text member.2), after ++ rest) := by
  cases spelled with
  | @spaced name value before named behind ahead valued after spacesBefore spelledName spacesBehind
      spacesAhead spelledValue spacesAfter =>
    refine ⟨before, _, after, spacesBefore, spacesAfter, rfl, ?_⟩
    intro rest
    simp only [List.append_assoc, List.cons_append]
    rw [Json.member, text_spelled spelledName]
    simp only [bind, Except.bind]
    rw [skipSpace_append spacesBehind rfl]
    dsimp only
    rw [if_pos rfl, skipSpace_append spacesAhead rfl, ← List.nil_append (code '"' :: _),
      valueAt_quote depth spaces_nil spelledValue]
    rfl

/-- A closing brace ends the members. -/
theorem members_end (value : List UInt8 → Except Stop (Found Value)) (fuel : Nat)
    (found : List (String × Value)) {spaces : List UInt8} (blank : Spaces spaces)
    (rest : List UInt8) :
    members value (fuel + 1) false found (spaces ++ code '\x7d' :: rest) = .ok (found, rest) := by
  rw [members, skipSpace_append blank rfl]
  dsimp only
  rw [if_pos rfl]

/-- A comma and a quote begin another member. -/
theorem members_comma {value : List UInt8 → Except Stop (Found Value)} {fuel : Nat}
    {found : List (String × Value)} {spaces before inner behind : List UInt8}
    {next : String × Value} (blank : Spaces spaces) (blankBefore : Spaces before)
    (read : member value inner = .ok (next, behind)) :
    members value (fuel + 1) false found
        (spaces ++ code ',' :: (before ++ code '"' :: inner)) =
      members value fuel false (next :: found) behind := by
  rw [members, skipSpace_append blank rfl]
  dsimp only
  rw [if_neg (by decide), if_neg Bool.false_ne_true, if_pos rfl, skipSpace_append blankBefore rfl]
  dsimp only
  rw [if_pos rfl, read]
  rfl

/-- A quote begins the first member. -/
theorem members_first {value : List UInt8 → Except Stop (Found Value)} {fuel : Nat}
    {before inner behind : List UInt8} {next : String × Value} (blankBefore : Spaces before)
    (read : member value inner = .ok (next, behind)) :
    members value (fuel + 1) true [] (before ++ code '"' :: inner) =
      members value fuel false [next] behind := by
  rw [members, skipSpace_append blankBefore rfl]
  dsimp only
  rw [if_neg (by decide), if_pos rfl, if_pos rfl, read]
  rfl

/-- Members are read one after the other up to the closing brace, the latest in front. -/
theorem members_spelled (depth : Nat) (rest : List UInt8) {list : List (String × String)}
    {bytes : List UInt8} (spelled : SpellsMembers list bytes) :
    ∃ before inner, Spaces before ∧ bytes = before ++ code '"' :: inner ∧
      ∀ fuel found, list.length ≤ fuel → ∃ first behind,
        member (valueAt depth) (inner ++ code '\x7d' :: rest) = .ok (first, behind) ∧
        members (valueAt depth) fuel false (first :: found) behind =
          .ok ((textMembers list).reverse ++ found, rest) := by
  induction spelled with
  | @one single bytes spelledMember =>
    obtain ⟨before, inner, after, blank, blankAfter, rfl, read⟩ :=
      member_spelled depth spelledMember
    refine ⟨before, inner, blank, rfl, ?_⟩
    intro fuel found enough
    obtain ⟨fuel, rfl⟩ := Nat.exists_eq_add_one.mpr enough
    exact ⟨_, _, read _, members_end _ fuel _ blankAfter rest⟩
  | @more head list bytes others spelledMember spelledOthers ih =>
    obtain ⟨before, inner, after, blank, blankAfter, rfl, read⟩ :=
      member_spelled depth spelledMember
    obtain ⟨beforeNext, innerNext, blankNext, rfl, readOthers⟩ := ih
    refine ⟨before, inner ++ code ',' :: (beforeNext ++ code '"' :: innerNext), blank,
      by simp only [List.append_assoc, List.cons_append], ?_⟩
    intro fuel found enough
    obtain ⟨fuel, rfl⟩ := Nat.exists_eq_add_one.mpr (Nat.zero_lt_of_lt enough)
    obtain ⟨next, behind, readNext, ends⟩ :=
      readOthers fuel ((head.1, .text head.2) :: found) (Nat.le_of_succ_le_succ enough)
    refine ⟨(head.1, .text head.2),
      after ++ code ',' :: (beforeNext ++ code '"' :: (innerNext ++ code '\x7d' :: rest)), ?_, ?_⟩
    · simp only [List.append_assoc, List.cons_append]
      exact read _
    · rw [members_comma blankAfter blankNext readNext, ends, textMembers_cons, List.reverse_cons,
        List.append_assoc]
      rfl

/-- No member is spelled without bytes. -/
theorem SpellsMembers.length_le {list : List (String × String)} {bytes : List UInt8}
    (spelled : SpellsMembers list bytes) : list.length ≤ bytes.length := by
  induction spelled with
  | one spelledMember =>
    cases spelledMember with
    | spaced =>
      rw [List.length_singleton, List.length_append, List.length_cons]
      omega
  | more spelledMember spelledOthers ih =>
    rw [List.length_append, List.length_cons, List.length_cons]
    omega

/-- A text that begins with a brace is the object of the members that follow it. -/
theorem readAll_brace {before rest after : List UInt8} {found : List (String × Value)}
    (blank : Spaces before) (blankAfter : Spaces after)
    (read : members (valueAt 126) (rest.length + 1) true [] rest = .ok (found, after)) :
    readAll (before ++ code '\x7b' :: rest) = .ok (.object found.reverse) := by
  have value : valueAt depthLimit (before ++ code '\x7b' :: rest) =
      .ok (.object found.reverse, after) := by
    rw [depthLimit, valueAt, skipSpace_append blank rfl]
    dsimp only
    rw [if_neg (by decide), if_neg (by decide), if_neg (by decide), if_neg (by decide),
      if_neg (by decide), if_neg (by decide), if_pos rfl, read]
    rfl
  rw [readAll, value]
  simp only [bind, Except.bind]
  rw [skipSpace_spaces blankAfter]

/-- Every spelling of an object of strings is read as that object. -/
theorem parse_spelled {list : List (String × String)} {bytes : List UInt8}
    (spelled : SpellsObject list bytes) : parse bytes = .ok (.object (textMembers list)) := by
  suffices read : readAll bytes = .ok (.object (textMembers list)) by rw [parse, read]
  cases spelled with
  | @empty before inner after blank blankInner blankAfter =>
    have none : members (valueAt 126) ((inner ++ code '\x7d' :: after).length + 1) true []
        (inner ++ code '\x7d' :: after) = .ok ([], after) := by
      rw [members, skipSpace_append blankInner rfl]
      rfl
    exact readAll_brace blank blankAfter none
  | @full _ before inner after blank spelledMembers blankAfter =>
    obtain ⟨blanks, first, blankFirst, rfl, readMembers⟩ := members_spelled 126 after spelledMembers
    have enough : list.length ≤ (blanks ++ code '"' :: first ++ code '\x7d' :: after).length := by
      have short := spelledMembers.length_le
      rw [List.length_append]
      omega
    obtain ⟨next, behind, readFirst, ends⟩ := readMembers _ [] enough
    rw [← List.reverse_reverse (textMembers list)]
    refine readAll_brace blank blankAfter ?_
    rw [List.append_nil] at ends
    rw [← ends]
    simp only [List.append_assoc, List.cons_append]
    exact members_first blankFirst readFirst

end Scratchpad.Json
