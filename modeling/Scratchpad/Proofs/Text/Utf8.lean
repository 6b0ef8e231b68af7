import Mathlib.Data.List.Basic
import Scratchpad.Text.Utf8

/-!
# Reading back what was written in UTF-8

The encoding of a text is that of its characters one after the other, and the strict reading gives
the characters back. The front of the encoding of a character is that character whatever follows, so
nothing has to be known of the bytes behind it.
-/
namespace Scratchpad.Text.Utf8

/-- The bytes of characters one after the other. -/
def encode (chars : List Char) : List UInt8 := chars.flatMap String.utf8EncodeChar

@[simp]
theorem encode_nil : encode [] = [] := rfl

@[simp]
theorem encode_cons (c : Char) (chars : List Char) :
    encode (c :: chars) = String.utf8EncodeChar c ++ encode chars := List.flatMap_cons

@[simp]
theorem encode_append (first second : List Char) :
    encode (first ++ second) = encode first ++ encode second := List.flatMap_append

/-- The bytes of a string are those of its characters. -/
theorem bytes_eq_encode (text : String) : bytes text = encode text.toList := by
  rw [bytes, String.toUTF8, ← String.utf8Encode_toList, List.utf8Encode]
  simp [encode]

/-- A byte is the number it was made of. -/
theorem toNat_byte {value : Nat} (small : value < 256) : (UInt8.ofNat value).toNat = value := by
  rw [UInt8.toNat_ofNat']
  exact Nat.mod_eq_of_lt small

/-- A character below 128 is one byte. -/
theorem encodeChar_of_ascii {c : Char} (ascii : c.toNat ≤ 127) :
    String.utf8EncodeChar c = [UInt8.ofNat c.toNat] := by
  rw [String.utf8EncodeChar]
  exact if_pos ascii

/-- Every byte of any other character is at least 128. -/
theorem le_of_mem_encodeChar {c : Char} (wide : 127 < c.toNat) {byte : UInt8}
    (among : byte ∈ String.utf8EncodeChar c) : 128 ≤ byte.toNat := by
  have value : c.val.toNat = c.toNat := rfl
  simp only [String.utf8EncodeChar, value] at among
  split_ifs at among with one two three
  · exact absurd one (by omega)
  · simp only [List.mem_cons, List.not_mem_nil, or_false] at among
    rcases among with rfl | rfl <;> rw [toNat_byte] <;> omega
  · simp only [List.mem_cons, List.not_mem_nil, or_false] at among
    rcases among with rfl | rfl | rfl <;> rw [toNat_byte] <;> omega
  · simp only [List.mem_cons, List.not_mem_nil, or_false] at among
    rcases among with rfl | rfl | rfl | rfl <;> rw [toNat_byte] <;> omega

/-- A byte lies between two bounds exactly if its number does. -/
theorem within_iff {low high : Nat} {byte : UInt8} :
    within low high byte = true ↔ low ≤ byte.toNat ∧ byte.toNat ≤ high := by
  rw [within, Bool.and_eq_true, decide_eq_true_eq, decide_eq_true_eq]

/-- A byte made of a number lies between two bounds if the number does. -/
theorem within_byte {low high value : Nat} (above : low ≤ value) (below : value ≤ high)
    (small : high < 256) : within low high (UInt8.ofNat value) = true := by
  rw [within_iff, toNat_byte (by omega)]
  exact ⟨above, below⟩

/-- The front of two bytes of a character. -/
theorem front_two {a b : UInt8} (lead : within 0xC2 0xDF a = true) (last : continues b = true)
    (rest : List UInt8) :
    front (a :: b :: rest) = .char (Char.ofNat ((a.toNat - 0xC0) * 64 + payload b)) rest := by
  have wide : ¬ a < 0x80 := by
    have bounds := within_iff.mp lead
    rw [UInt8.lt_iff_toNat_lt]
    change ¬ a.toNat < 128
    omega
  rw [front.eq_def]
  dsimp only
  rw [if_neg wide, if_pos lead, if_pos last]

/-- The front of three bytes of a character. -/
theorem front_three {a b c : UInt8} (lead : within 0xE0 0xEF a = true)
    (second : secondOfThree a b = true) (last : continues c = true) (rest : List UInt8) :
    front (a :: b :: c :: rest) =
      .char (Char.ofNat (((a.toNat - 0xE0) * 64 + payload b) * 64 + payload c)) rest := by
  have bounds := within_iff.mp lead
  have wide : ¬ a < 0x80 := by
    rw [UInt8.lt_iff_toNat_lt]
    change ¬ a.toNat < 128
    omega
  have longer : ¬ within 0xC2 0xDF a = true := by
    rw [within_iff]
    omega
  rw [front.eq_def]
  dsimp only
  rw [if_neg wide, if_neg longer, if_pos lead, if_pos second, if_pos last]

/-- The front of four bytes of a character. -/
theorem front_four {a b c d : UInt8} (lead : within 0xF0 0xF4 a = true)
    (second : secondOfFour a b = true) (third : continues c = true) (last : continues d = true)
    (rest : List UInt8) :
    front (a :: b :: c :: d :: rest) =
      .char (Char.ofNat ((((a.toNat - 0xF0) * 64 + payload b) * 64 + payload c) * 64 + payload d))
        rest := by
  have bounds := within_iff.mp lead
  have wide : ¬ a < 0x80 := by
    rw [UInt8.lt_iff_toNat_lt]
    change ¬ a.toNat < 128
    omega
  have longer : ¬ within 0xC2 0xDF a = true := by
    rw [within_iff]
    omega
  have longest : ¬ within 0xE0 0xEF a = true := by
    rw [within_iff]
    omega
  rw [front.eq_def]
  dsimp only
  rw [if_neg wide, if_neg longer, if_neg longest, if_pos lead, if_pos second, if_pos third,
    if_pos last]

/-- The byte of six payload bits continues a character. -/
theorem continues_byte (value : Nat) : continues (UInt8.ofNat (value % 64 + 128)) = true :=
  within_byte (by omega) (by omega) (by decide)

/-- The byte of six payload bits gives them back. -/
theorem payload_byte (value : Nat) : payload (UInt8.ofNat (value % 64 + 128)) = value % 64 := by
  rw [payload, toNat_byte (by omega)]
  omega

/-- The second byte of a three-byte character may follow its first. -/
theorem secondOfThree_byte {value : Nat} (wide : 0x800 ≤ value) (narrow : value < 0x10000)
    (character : value < 0xD800 ∨ 0xDFFF < value) :
    secondOfThree (UInt8.ofNat (value / 4096 % 16 + 224)) (UInt8.ofNat (value / 64 % 64 + 128)) =
      true := by
  have lead : (UInt8.ofNat (value / 4096 % 16 + 224)).toNat = value / 4096 % 16 + 224 :=
    toNat_byte (by omega)
  rw [secondOfThree]
  split_ifs with lowest surrogate
  · have first : value / 4096 % 16 + 224 = 224 := lead.symm.trans (congrArg UInt8.toNat lowest)
    exact within_byte (by omega) (by omega) (by decide)
  · have first : value / 4096 % 16 + 224 = 237 := lead.symm.trans (congrArg UInt8.toNat surrogate)
    exact within_byte (by omega) (by omega) (by decide)
  · exact continues_byte _

/-- The second byte of a four-byte character may follow its first. -/
theorem secondOfFour_byte {value : Nat} (wide : 0x10000 ≤ value) (character : value < 0x110000) :
    secondOfFour (UInt8.ofNat (value / 262144 % 8 + 240)) (UInt8.ofNat (value / 4096 % 64 + 128)) =
      true := by
  have lead : (UInt8.ofNat (value / 262144 % 8 + 240)).toNat = value / 262144 % 8 + 240 :=
    toNat_byte (by omega)
  rw [secondOfFour]
  split_ifs with lowest highest
  · have first : value / 262144 % 8 + 240 = 240 := lead.symm.trans (congrArg UInt8.toNat lowest)
    exact within_byte (by omega) (by omega) (by decide)
  · have first : value / 262144 % 8 + 240 = 244 := lead.symm.trans (congrArg UInt8.toNat highest)
    exact within_byte (by omega) (by omega) (by decide)
  · exact continues_byte _

/-- The front of the encoding of a character is that character, whatever follows. -/
theorem front_encodeChar (c : Char) (rest : List UInt8) :
    front (String.utf8EncodeChar c ++ rest) = .char c rest := by
  have value : c.val.toNat = c.toNat := rfl
  have valid : c.toNat < 0xD800 ∨ 0xDFFF < c.toNat ∧ c.toNat < 0x110000 := c.valid
  simp only [String.utf8EncodeChar, value]
  split_ifs with one two three
  · have ascii : UInt8.ofNat c.toNat < 0x80 := by
      rw [UInt8.lt_iff_toNat_lt, toNat_byte (by omega)]
      exact Nat.lt_succ_of_le one
    rw [List.singleton_append, front.eq_def]
    dsimp only
    rw [if_pos ascii, toNat_byte (by omega), Char.ofNat_toNat]
  · have whole : (c.toNat / 64 % 32 + 192 - 0xC0) * 64 + c.toNat % 64 = c.toNat := by omega
    simp only [List.cons_append, List.nil_append]
    rw [front_two (within_byte (by omega) (by omega) (by decide)) (continues_byte _),
      toNat_byte (by omega), payload_byte, whole, Char.ofNat_toNat]
  · have whole : ((c.toNat / 4096 % 16 + 224 - 0xE0) * 64 + c.toNat / 64 % 64) * 64 + c.toNat % 64 =
        c.toNat := by omega
    simp only [List.cons_append, List.nil_append]
    rw [front_three (within_byte (by omega) (by omega) (by decide))
        (secondOfThree_byte (by omega) (by omega) (by omega)) (continues_byte _),
      toNat_byte (by omega), payload_byte, payload_byte, whole, Char.ofNat_toNat]
  · have whole : (((c.toNat / 262144 % 8 + 240 - 0xF0) * 64 + c.toNat / 4096 % 64) * 64 +
        c.toNat / 64 % 64) * 64 + c.toNat % 64 = c.toNat := by omega
    simp only [List.cons_append, List.nil_append]
    rw [front_four (within_byte (by omega) (by omega) (by decide))
        (secondOfFour_byte (by omega) (by omega)) (continues_byte _) (continues_byte _),
      toNat_byte (by omega), payload_byte, payload_byte, payload_byte, whole, Char.ofNat_toNat]

/-- The strict reading of the encoding of characters adds them to those read before. -/
theorem decodeStrictFrom_encode {fuel : Nat} {chars : List Char} (enough : chars.length ≤ fuel)
    (before : List Char) :
    decodeStrictFrom fuel before (encode chars) = .ok (before.reverse ++ chars) := by
  induction chars generalizing fuel before with
  | nil =>
    rw [List.append_nil, encode_nil]
    cases fuel <;> rfl
  | cons c chars ih =>
    obtain ⟨fuel, rfl⟩ : ∃ less, fuel = less + 1 := Nat.exists_eq_add_one.mpr (by
      rw [List.length_cons] at enough
      omega)
    rw [encode_cons, decodeStrictFrom, front_encodeChar]
    dsimp only
    rw [ih (Nat.le_of_succ_le_succ enough), List.reverse_cons, List.append_assoc]
    rfl

/-- No character is without bytes. -/
theorem length_le_length_encode (chars : List Char) : chars.length ≤ (encode chars).length := by
  induction chars with
  | nil => exact Nat.le_refl 0
  | cons c chars ih =>
    have some_byte : 0 < (String.utf8EncodeChar c).length :=
      List.length_pos_iff.mpr String.utf8EncodeChar_ne_nil
    rw [encode_cons, List.length_append, List.length_cons]
    omega

/-- Reading the encoding of characters gives them back. -/
theorem decode_encode (chars : List Char) : decode (encode chars) = .ok chars :=
  decodeStrictFrom_encode (length_le_length_encode chars) []

end Scratchpad.Text.Utf8
