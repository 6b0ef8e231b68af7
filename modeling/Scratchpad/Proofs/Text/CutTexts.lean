import Scratchpad.Proofs.Text.LossyReading

/-!
# Texts that are cut after a number of bytes

The first bytes of an encoded text are those of its first characters and, if the cut falls inside a
character, the beginning of that one. So a lossy reading of them gives as many characters of the
text as fit as a whole, and one replacement character for the one that was cut.
-/
namespace Scratchpad.Text.Utf8

/-- The characters at the front of a text that fit into a number of bytes, as many as do. -/
structure FitsLongest (ceiling : Nat) (text kept : List Char) : Prop where
  front : kept <+: text
  fits : (encode kept).length ≤ ceiling
  longest : ∀ other, other <+: text → (encode other).length ≤ ceiling → other <+: kept

/-- A number of bytes ends inside a character of a text. -/
def CutsInside (ceiling : Nat) (text : List Char) : Prop :=
  ∃ before c after, text = before ++ c :: after ∧ (encode before).length < ceiling ∧
    ceiling < (encode (before ++ [c])).length

/-- What is shown of a text of which a number of bytes was kept. -/
structure ShownCut (ceiling : Nat) (text shown : List Char) : Prop where
  whole : (encode text).length ≤ ceiling → shown = text
  cut : ceiling < (encode text).length → ∃ kept, FitsLongest ceiling text kept ∧
    (CutsInside ceiling text ∧ shown = kept ++ [replacement] ∨
      ¬ CutsInside ceiling text ∧ shown = kept)

/-- The bytes of characters that begin a text are no more than those of the text. -/
theorem length_encode_le {first text : List Char} (front : first <+: text) :
    (encode first).length ≤ (encode text).length := by
  obtain ⟨rest, rfl⟩ := front
  rw [encode_append, List.length_append]
  exact Nat.le_add_right _ _

/-- The first bytes of a text, if these are not all, are whole characters and a beginning of the
next one. -/
theorem take_encode {text : List Char} {ceiling : Nat} (exceeds : ceiling < (encode text).length) :
    ∃ kept c after part, text = kept ++ c :: after ∧
      (encode text).take ceiling = encode kept ++ part ∧
      part <+: String.utf8EncodeChar c ∧ part.length < (String.utf8EncodeChar c).length := by
  induction text generalizing ceiling with
  | nil => cases exceeds
  | cons c rest ih =>
    rw [encode_cons, List.length_append] at exceeds
    by_cases fits : (String.utf8EncodeChar c).length ≤ ceiling
    · have left : ceiling - (String.utf8EncodeChar c).length < (encode rest).length := by omega
      obtain ⟨kept, next, after, part, rfl, taken, begins, shorter⟩ := ih left
      refine ⟨c :: kept, next, after, part, rfl, ?_, begins, shorter⟩
      rw [encode_cons, List.take_append, List.take_of_length_le fits, taken, encode_cons,
        List.append_assoc]
    · refine ⟨[], c, rest, (String.utf8EncodeChar c).take ceiling, rfl, ?_,
        List.take_prefix _ _, ?_⟩
      · rw [encode_cons, List.take_append_of_le_length (by omega)]
        rfl
      · rw [List.length_take]
        omega

/-- A beginning of a character that is less than the whole has no character at its front. -/
theorem unread_of_begins {c : Char} {part : List UInt8} (begins : part <+: String.utf8EncodeChar c)
    (shorter : part.length < (String.utf8EncodeChar c).length) (other : Char) :
    ¬ String.utf8EncodeChar other <+: part := by
  intro encoded
  obtain ⟨rest, whole⟩ := encoded.trans begins
  have read := front_encodeChar c []
  rw [List.append_nil, ← whole, front_encodeChar] at read
  cases read
  exact Nat.lt_irrefl _ (Nat.lt_of_lt_of_le shorter encoded.length_le)

/-- A beginning of a character with nothing behind it is a stray part, unless it is empty. -/
theorem isStray_of_begins {c : Char} {part : List UInt8} (begins : part <+: String.utf8EncodeChar c)
    (shorter : part.length < (String.utf8EncodeChar c).length) (nonempty : part ≠ []) :
    IsStray part [] where
  nonempty
  unread other := by
    rw [List.append_nil]
    exact unread_of_begins begins shorter other
  shape := .inl ⟨c, begins⟩
  longest longer inFront _ := by
    rw [List.append_nil] at inFront
    exact inFront.length_le

/-- The encoding of characters in front of bytes reads as these characters. -/
theorem LossyReading.encode {bytes : List UInt8} {text : List Char}
    (read : LossyReading bytes text) (chars : List Char) :
    LossyReading (Utf8.encode chars ++ bytes) (chars ++ text) := by
  induction chars with
  | nil => exact read
  | cons c rest ih =>
    rw [encode_cons, List.append_assoc]
    exact .char c ih

/-- The characters before a character that does not fit are as many as do. -/
theorem fitsLongest_of_next {ceiling : Nat} {kept after : List Char} {c : Char}
    (fits : (encode kept).length ≤ ceiling) (exceeds : ceiling < (encode (kept ++ [c])).length) :
    FitsLongest ceiling (kept ++ c :: after) kept where
  front := List.prefix_append _ _
  fits
  longest other front fit := by
    refine List.prefix_of_prefix_length_le front (List.prefix_append _ _) ?_
    by_contra beyond
    have next : kept ++ [c] <+: kept ++ c :: after :=
      (List.prefix_append_right_inj kept).mpr ⟨after, rfl⟩
    have within : kept ++ [c] <+: other := by
      refine List.prefix_of_prefix_length_le next front ?_
      rw [List.length_append, List.length_singleton]
      omega
    exact absurd (Nat.le_trans (length_encode_le within) fit) (Nat.not_le_of_lt exceeds)

/-- A cut falls inside a character exactly if the characters that fit leave bytes over. -/
theorem cutsInside_iff {ceiling : Nat} {kept after : List Char} {c : Char}
    (exceeds : ceiling < (encode (kept ++ [c])).length)
    (longest : FitsLongest ceiling (kept ++ c :: after) kept) :
    CutsInside ceiling (kept ++ c :: after) ↔ (encode kept).length < ceiling := by
  refine ⟨?_, fun less => ⟨kept, c, after, rfl, less, exceeds⟩⟩
  rintro ⟨before, next, later, split, less, beyond⟩
  have front : before <+: kept ++ c :: after := ⟨next :: later, split.symm⟩
  obtain ⟨rest, rfl⟩ := longest.longest before front (Nat.le_of_lt less)
  -- Had more been kept than lies before the cut character, that one would have fitted.
  cases rest with
  | nil => rwa [List.append_nil]
  | cons first rest =>
    rw [List.append_assoc, List.append_cancel_left_eq, List.cons_append] at split
    obtain ⟨rfl, -⟩ := List.cons.inj split
    have within : before ++ [first] <+: before ++ first :: rest :=
      (List.prefix_append_right_inj before).mpr ⟨rest, rfl⟩
    exact absurd (Nat.le_trans (length_encode_le within) longest.fits) (Nat.not_le_of_lt beyond)

/-- The first bytes of a text read as the characters that fit, with a replacement character for one
that was cut. -/
theorem shownCut_take (ceiling : Nat) (text : List Char) :
    ShownCut ceiling text (decodeLossy ((encode text).take ceiling)) where
  whole fits := by
    have read := LossyReading.done.encode text
    rw [List.append_nil, List.append_nil] at read
    rw [List.take_of_length_le fits]
    exact lossyReading_iff.mp read
  cut exceeds := by
    obtain ⟨kept, c, after, part, rfl, taken, begins, shorter⟩ := take_encode exceeds
    have size : (encode kept).length + part.length = ceiling := by
      rw [← List.length_append, ← taken, List.length_take]
      exact Nat.min_eq_left (Nat.le_of_lt exceeds)
    have beyond : ceiling < (encode (kept ++ [c])).length := by
      rw [encode_append, List.length_append, encode_cons, encode_nil, List.append_nil]
      omega
    have longest : FitsLongest ceiling (kept ++ c :: after) kept :=
      fitsLongest_of_next (by omega) beyond
    refine ⟨kept, longest, ?_⟩
    rw [cutsInside_iff beyond longest, taken]
    by_cases empty : part = []
    · subst empty
      refine .inr ⟨by rw [← size]; exact Nat.lt_irrefl _, ?_⟩
      have read := LossyReading.done.encode kept
      rw [List.append_nil kept] at read
      exact lossyReading_iff.mp read
    · have some_byte : 0 < part.length := List.length_pos_iff.mpr empty
      have stray : LossyReading (part ++ []) [replacement] :=
        .stray (isStray_of_begins begins shorter empty) .done
      rw [List.append_nil] at stray
      exact .inl ⟨by omega, lossyReading_iff.mp (stray.encode kept)⟩

end Scratchpad.Text.Utf8
