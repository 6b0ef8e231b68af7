import Scratchpad.Proofs.Text.Utf8
import Scratchpad.Text.LossyReading

/-!
# Decoding is lossy reading

The front of bytes is a character exactly where one is encoded, so what is left over elsewhere is a
stray part. That the part could not have been longer is seen from the byte behind it: whatever
follows that byte, the front is refused at the same place, so no character goes on with it. By
induction on the reading, bytes are decoded as they are read, and since all bytes have a reading,
they have no other.
-/
namespace Scratchpad.Text.Utf8

/-- A character is the number it was made of, if there is a character of that number. -/
theorem toNat_char {value : Nat} (valid : value.isValidChar) :
    (Char.ofNat value).toNat = value := by
  rw [Char.ofNat, dif_pos valid]
  rfl

/-- The number of a byte that continues a character is that of its payload and 128. -/
theorem toNat_of_continues {byte : UInt8} (follows : continues byte = true) :
    byte.toNat = payload byte + 128 := by
  have bounds := within_iff.mp follows
  rw [payload]
  omega

/-- A payload has six bits. -/
theorem payload_lt (byte : UInt8) : payload byte < 64 := Nat.mod_lt _ (by decide)

/-- A byte that may come second continues a character, and after the lowest and the highest first
byte it keeps to narrower bounds. -/
theorem second_bounds {lead second lowest highest : UInt8} {low high : Nat} (above : 0x80 ≤ low)
    (below : high ≤ 0xBF) (apart : lowest ≠ highest)
    (follows : (if lead = lowest then within low 0xBF second
      else if lead = highest then within 0x80 high second else continues second) = true) :
    continues second = true ∧ (lead.toNat = lowest.toNat → low ≤ second.toNat) ∧
      (lead.toNat = highest.toNat → second.toNat ≤ high) := by
  rw [UInt8.toNat_inj, UInt8.toNat_inj]
  split_ifs at follows with first last
  · have bounds := within_iff.mp follows
    refine ⟨within_iff.mpr ⟨by omega, bounds.2⟩, fun _ => bounds.1, fun same => ?_⟩
    exact absurd (first.symm.trans same) apart
  · have bounds := within_iff.mp follows
    exact ⟨within_iff.mpr ⟨bounds.1, by omega⟩, fun same => absurd same first, fun _ => bounds.2⟩
  · exact ⟨follows, fun same => absurd same first, fun same => absurd same last⟩

/-- The byte made of the number of a byte is that byte. -/
theorem byte_eq (byte : UInt8) {value : Nat} (same : value = byte.toNat) :
    UInt8.ofNat value = byte := by
  rw [same, UInt8.ofNat_toNat]

/-- The encoding of the character that is read from one byte. -/
theorem encodeChar_one {a : UInt8} (ascii : a < 0x80) :
    String.utf8EncodeChar (Char.ofNat a.toNat) = [a] := by
  have small : a.toNat < 128 := ascii
  have value : (Char.ofNat a.toNat).toNat = a.toNat := toNat_char (.inl (by omega))
  rw [encodeChar_of_ascii (by omega), value, UInt8.ofNat_toNat]

/-- The encoding of the character that is read from two bytes. -/
theorem encodeChar_two {a b : UInt8} (lead : within 0xC2 0xDF a = true)
    (last : continues b = true) :
    String.utf8EncodeChar (Char.ofNat ((a.toNat - 0xC0) * 64 + payload b)) = [a, b] := by
  have bounds := within_iff.mp lead
  have second := toNat_of_continues last
  have less := payload_lt b
  have value : (Char.ofNat ((a.toNat - 0xC0) * 64 + payload b)).val.toNat =
      (a.toNat - 0xC0) * 64 + payload b := toNat_char (.inl (by omega))
  simp only [String.utf8EncodeChar, value]
  rw [if_neg (by omega), if_pos (by omega), byte_eq a (by omega),
    byte_eq b (by omega)]

/-- The encoding of the character that is read from three bytes. -/
theorem encodeChar_three {a b c : UInt8} (lead : within 0xE0 0xEF a = true)
    (follows : secondOfThree a b = true) (last : continues c = true) :
    String.utf8EncodeChar
      (Char.ofNat (((a.toNat - 0xE0) * 64 + payload b) * 64 + payload c)) = [a, b, c] := by
  have bounds := within_iff.mp lead
  obtain ⟨middle, long, scalar⟩ : continues b = true ∧ (a.toNat = 0xE0 → 0xA0 ≤ b.toNat) ∧
      (a.toNat = 0xED → b.toNat ≤ 0x9F) :=
    second_bounds (by decide) (by decide) (by decide) follows
  have second := toNat_of_continues middle
  have third := toNat_of_continues last
  have less := payload_lt b
  have less' := payload_lt c
  have value : (Char.ofNat (((a.toNat - 0xE0) * 64 + payload b) * 64 + payload c)).val.toNat =
      ((a.toNat - 0xE0) * 64 + payload b) * 64 + payload c := by
    refine toNat_char ?_
    change _ < _ ∨ _
    omega
  simp only [String.utf8EncodeChar, value]
  rw [if_neg (by omega), if_neg (by omega), if_pos (by omega), byte_eq a (by omega),
    byte_eq b (by omega), byte_eq c (by omega)]

/-- The encoding of the character that is read from four bytes. -/
theorem encodeChar_four {a b c d : UInt8} (lead : within 0xF0 0xF4 a = true)
    (follows : secondOfFour a b = true) (third : continues c = true) (last : continues d = true) :
    String.utf8EncodeChar
      (Char.ofNat ((((a.toNat - 0xF0) * 64 + payload b) * 64 + payload c) * 64 + payload d)) =
      [a, b, c, d] := by
  have bounds := within_iff.mp lead
  obtain ⟨middle, long, scalar⟩ : continues b = true ∧ (a.toNat = 0xF0 → 0x90 ≤ b.toNat) ∧
      (a.toNat = 0xF4 → b.toNat ≤ 0x8F) :=
    second_bounds (by decide) (by decide) (by decide) follows
  have second := toNat_of_continues middle
  have next := toNat_of_continues third
  have fourth := toNat_of_continues last
  have less := payload_lt b
  have less' := payload_lt c
  have less'' := payload_lt d
  have value : (Char.ofNat ((((a.toNat - 0xF0) * 64 + payload b) * 64 + payload c) * 64 +
      payload d)).val.toNat =
      (((a.toNat - 0xF0) * 64 + payload b) * 64 + payload c) * 64 + payload d := by
    refine toNat_char (.inr ?_)
    omega
  simp only [String.utf8EncodeChar, value]
  rw [if_neg (by omega), if_neg (by omega), if_neg (by omega), byte_eq a (by omega),
    byte_eq b (by omega), byte_eq c (by omega), byte_eq d (by omega)]

/-- A character at the front of bytes is one whose encoding is there. -/
theorem front_eq_char {bytes rest : List UInt8} {c : Char} :
    front bytes = .char c rest → bytes = String.utf8EncodeChar c ++ rest := by
  fun_cases front bytes with
  | case2 a later ascii =>
    rintro ⟨⟩
    rw [encodeChar_one ascii]
    rfl
  | case3 a wide lead b later last =>
    rintro ⟨⟩
    rw [encodeChar_two lead last]
    rfl
  | case6 a wide longer lead b follows c later last =>
    rintro ⟨⟩
    rw [encodeChar_three lead follows last]
    rfl
  | case11 a wide longer longest lead b follows c third d later last =>
    rintro ⟨⟩
    rw [encodeChar_four lead follows third last]
    rfl
  | _ => nofun

/-- Where nothing is at the front of bytes, there are none. -/
theorem front_eq_done {bytes : List UInt8} : front bytes = .done → bytes = [] := by
  fun_cases front bytes with
  | case1 => exact fun _ => rfl
  | _ => nofun

/-- A front is refused after a part. The part is a single byte or could have been completed to a
character; and if a byte follows it, the front is refused there whatever comes after that byte. -/
structure RefusedAfter (part rest : List UInt8) : Prop where
  nonempty : part ≠ []
  shape : part.length = 1 ∨ ∃ more c, front (part ++ more) = .char c []
  stays : ∀ b later, rest = b :: later → ∀ other, front (part ++ b :: other) = .bad (b :: other)

/-- A front that is no character is refused after a part of the bytes. -/
theorem refusedAfter_of_front {bytes rest : List UInt8} :
    front bytes = .bad rest → ∃ part, bytes = part ++ rest ∧ RefusedAfter part rest := by
  fun_cases front bytes with
  | case1 | case2 | case3 | case6 | case11 => nofun
  | case4 a wide lead b later stop =>
    rintro ⟨⟩
    refine ⟨[a], rfl, List.cons_ne_nil _ _, .inl rfl, ?_⟩
    rintro _ _ ⟨⟩ other
    simp [front, wide, lead, stop]
  | case5 a wide lead =>
    rintro ⟨⟩
    exact ⟨[a], rfl, List.cons_ne_nil _ _, .inl rfl, nofun⟩
  | case7 a wide longer lead b follows c later stop =>
    rintro ⟨⟩
    have completed := front_three lead follows (c := 0x80) rfl []
    refine ⟨[a, b], rfl, List.cons_ne_nil _ _, .inr ⟨[0x80], _, completed⟩, ?_⟩
    rintro _ _ ⟨⟩ other
    simp [front, wide, longer, lead, follows, stop]
  | case8 a wide longer lead b follows =>
    rintro ⟨⟩
    have completed := front_three lead follows (c := 0x80) rfl []
    exact ⟨[a, b], rfl, List.cons_ne_nil _ _, .inr ⟨[0x80], _, completed⟩, nofun⟩
  | case9 a wide longer lead b later stop =>
    rintro ⟨⟩
    refine ⟨[a], rfl, List.cons_ne_nil _ _, .inl rfl, ?_⟩
    rintro _ _ ⟨⟩ other
    simp [front, wide, longer, lead, stop]
  | case10 a wide longer lead =>
    rintro ⟨⟩
    exact ⟨[a], rfl, List.cons_ne_nil _ _, .inl rfl, nofun⟩
  | case12 a wide longer longest lead b follows c third d later stop =>
    rintro ⟨⟩
    have completed := front_four lead follows third (d := 0x80) rfl []
    refine ⟨[a, b, c], rfl, List.cons_ne_nil _ _, .inr ⟨[0x80], _, completed⟩, ?_⟩
    rintro _ _ ⟨⟩ other
    simp [front, wide, longer, longest, lead, follows, third, stop]
  | case13 a wide longer longest lead b follows c third =>
    rintro ⟨⟩
    have completed := front_four lead follows third (d := 0x80) rfl []
    exact ⟨[a, b, c], rfl, List.cons_ne_nil _ _, .inr ⟨[0x80], _, completed⟩, nofun⟩
  | case14 a wide longer longest lead b follows c later stop =>
    rintro ⟨⟩
    have completed := front_four lead follows (c := 0x80) (d := 0x80) rfl rfl []
    refine ⟨[a, b], rfl, List.cons_ne_nil _ _, .inr ⟨[0x80, 0x80], _, completed⟩, ?_⟩
    rintro _ _ ⟨⟩ other
    simp [front, wide, longer, longest, lead, follows, stop]
  | case15 a wide longer longest lead b follows =>
    rintro ⟨⟩
    have completed := front_four lead follows (c := 0x80) (d := 0x80) rfl rfl []
    exact ⟨[a, b], rfl, List.cons_ne_nil _ _, .inr ⟨[0x80, 0x80], _, completed⟩, nofun⟩
  | case16 a wide longer longest lead b later stop =>
    rintro ⟨⟩
    refine ⟨[a], rfl, List.cons_ne_nil _ _, .inl rfl, ?_⟩
    rintro _ _ ⟨⟩ other
    simp [front, wide, longer, longest, lead, stop]
  | case17 a wide longer longest lead =>
    rintro ⟨⟩
    exact ⟨[a], rfl, List.cons_ne_nil _ _, .inl rfl, nofun⟩
  | case18 a later wide longer longest beyond =>
    rintro ⟨⟩
    refine ⟨[a], rfl, List.cons_ne_nil _ _, .inl rfl, ?_⟩
    rintro b later ⟨⟩ other
    simp [front, wide, longer, longest, beyond]

/-- A character that is encoded at the front of bytes is read there. -/
theorem front_of_encoded {bytes : List UInt8} {c : Char}
    (encoded : String.utf8EncodeChar c <+: bytes) : ∃ rest, front bytes = .char c rest := by
  obtain ⟨rest, rfl⟩ := encoded
  exact ⟨rest, front_encodeChar c rest⟩

/-- Bytes at the front that are no character are a stray part. -/
theorem isStray_of_front {bytes rest : List UInt8} (bad : front bytes = .bad rest) :
    ∃ part, bytes = part ++ rest ∧ IsStray part rest := by
  obtain ⟨part, rfl, refused⟩ := refusedAfter_of_front bad
  refine ⟨part, rfl, refused.nonempty, ?_, ?_, ?_⟩
  · intro c encoded
    obtain ⟨_, read⟩ := front_of_encoded encoded
    cases bad.symm.trans read
  · refine refused.shape.symm.imp_left ?_
    rintro ⟨more, c, completed⟩
    refine ⟨c, more, ?_⟩
    have whole := front_eq_char completed
    rwa [List.append_nil] at whole
  · rintro longer inFront ⟨c, begins⟩
    by_contra beyond
    -- The byte behind the part is in the longer one, so it is a byte of the character.
    cases rest with
    | nil =>
      rw [List.append_nil] at inFront
      exact beyond inFront.length_le
    | cons b later =>
      have within : part ++ [b] <+: longer := by
        refine List.prefix_of_prefix_length_le ?_ inFront ?_
        · exact (List.prefix_append_right_inj part).mpr ⟨later, rfl⟩
        · rw [List.length_append, List.length_singleton]
          omega
      obtain ⟨other, whole⟩ := within.trans begins
      have read := front_encodeChar c []
      rw [List.append_nil, ← whole, List.append_assoc] at read
      cases (refused.stays b later rfl other).symm.trans read

/-- Stray parts at the front of the same bytes are as long as each other. -/
theorem IsStray.length_le {part other rest rest' : List UInt8} (stray : IsStray part rest)
    (stray' : IsStray other rest') (same : part ++ rest = other ++ rest') :
    part.length ≤ other.length := by
  obtain begins | single := stray.shape
  · exact stray'.longest part (same ▸ List.prefix_append part rest) begins
  · rw [single]
    exact List.length_pos_iff.mpr stray'.nonempty

/-- A stray part at the front of bytes is read as no character. -/
theorem IsStray.front_eq {part rest : List UInt8} (stray : IsStray part rest) :
    front (part ++ rest) = .bad rest := by
  cases read : front (part ++ rest) with
  | done => exact absurd (List.append_eq_nil_iff.mp (front_eq_done read)).1 stray.nonempty
  | char c later => exact absurd ⟨later, (front_eq_char read).symm⟩ (stray.unread c)
  | bad later =>
    obtain ⟨other, same, stray'⟩ := isStray_of_front read
    have length : part.length = other.length :=
      Nat.le_antisymm (stray.length_le stray' same) (stray'.length_le stray same.symm)
    rw [(List.append_inj same length).2]

/-- The encoding of a character has a byte. -/
theorem length_encodeChar_pos (c : Char) : 0 < (String.utf8EncodeChar c).length :=
  List.length_pos_iff.mpr String.utf8EncodeChar_ne_nil

/-- The reading of bytes adds what they read as to the characters read before. -/
theorem LossyReading.decodeFrom_eq {bytes : List UInt8} {text : List Char}
    (read : LossyReading bytes text) {fuel : Nat} (enough : bytes.length ≤ fuel)
    (before : List Char) : decodeFrom fuel before bytes = before.reverse ++ text := by
  induction read generalizing fuel before with
  | done =>
    rw [List.append_nil]
    cases fuel <;> rfl
  | @char c rest text read ih =>
    have some_byte := length_encodeChar_pos c
    rw [List.length_append] at enough
    obtain ⟨fuel, rfl⟩ : ∃ less, fuel = less + 1 := Nat.exists_eq_add_one.mpr (by omega)
    rw [decodeFrom, front_encodeChar]
    dsimp only
    rw [ih (by omega), List.reverse_cons, List.append_assoc]
    rfl
  | @stray part rest text replaced read ih =>
    have some_byte : 0 < part.length := List.length_pos_iff.mpr replaced.nonempty
    rw [List.length_append] at enough
    obtain ⟨fuel, rfl⟩ : ∃ less, fuel = less + 1 := Nat.exists_eq_add_one.mpr (by omega)
    rw [decodeFrom, replaced.front_eq]
    dsimp only
    rw [ih (by omega), List.reverse_cons, List.append_assoc]
    rfl

/-- Bytes have a lossy reading. -/
theorem exists_lossyReading (bytes : List UInt8) : ∃ text, LossyReading bytes text := by
  induction length : bytes.length using Nat.strongRecOn generalizing bytes with
  | ind size ih =>
    cases read : front bytes with
    | done =>
      rw [front_eq_done read]
      exact ⟨[], .done⟩
    | char c rest =>
      obtain rfl := front_eq_char read
      have some_byte := length_encodeChar_pos c
      rw [List.length_append] at length
      obtain ⟨text, later⟩ := ih rest.length (by omega) rest rfl
      exact ⟨c :: text, .char c later⟩
    | bad rest =>
      obtain ⟨part, rfl, stray⟩ := isStray_of_front read
      have some_byte : 0 < part.length := List.length_pos_iff.mpr stray.nonempty
      rw [List.length_append] at length
      obtain ⟨text, later⟩ := ih rest.length (by omega) rest rfl
      exact ⟨replacement :: text, .stray stray later⟩

/-- Bytes have one lossy reading, which is how they are decoded. -/
theorem lossyReading_iff {bytes : List UInt8} {text : List Char} :
    LossyReading bytes text ↔ decodeLossy bytes = text := by
  have decoded {text : List Char} (read : LossyReading bytes text) : decodeLossy bytes = text :=
    read.decodeFrom_eq (Nat.le_refl _) []
  refine ⟨decoded, ?_⟩
  rintro rfl
  obtain ⟨text, read⟩ := exists_lossyReading bytes
  rwa [decoded read]

/-- Three of the four bytes of a character are one stray part, and each byte of an overlong form is
one of its own. -/
example : decodeLossy [0xF0, 0x9F, 0x98, 0x61, 0xC0, 0x80] =
    [replacement, 'a', replacement, replacement] := by
  decide

end Scratchpad.Text.Utf8
