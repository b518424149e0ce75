import ImportOrder.Proofs.Text.Salvage
import Mathlib.Data.List.Basic

/-! Byte offsets between two characters: what they count, and the text between two of them. -/

namespace ImportOrder

namespace Utf8

/-- A byte offset that cuts no character: the bytes in front of it are those of some first
characters. -/
def Boundary (text : Text) (offset : Nat) : Prop :=
  ∃ count, count ≤ text.length ∧ length (text.take count) = offset

instance (text : Text) (offset : Nat) : Decidable (Boundary text offset) :=
  inferInstanceAs (Decidable (∃ count, count ≤ text.length ∧ length (text.take count) = offset))

/-- Every character has a byte. -/
theorem length_le_bytes (text : Text) : text.length ≤ length text := by
  induction text with
  | nil => exact Nat.le_refl 0
  | cons c rest ih =>
    have positive := c.utf8Size_pos
    simp only [List.length_cons, length]
    omega

/-- The bytes of two texts side by side are counted together. -/
theorem length_append (left right : Text) : length (left ++ right) = length left + length right := by
  induction left with
  | nil => simp [length]
  | cons c rest ih =>
    simp only [List.cons_append, length, ih]
    omega

/-- More characters have no fewer bytes. -/
theorem length_take_mono (text : Text) {few many : Nat} (le : few ≤ many) :
    length (text.take few) ≤ length (text.take many) := by
  have split : text.take many = text.take few ++ (text.take many).drop few := by
    conv_lhs => rw [← List.take_append_drop few (text.take many)]
    rw [List.take_take, Nat.min_eq_left le]
  rw [split, length_append]
  omega

/-- Where every character has one byte, the first characters have as many bytes. -/
theorem length_take_ascii {text : Text} (ascii : length text = text.length) {count : Nat}
    (bound : count ≤ text.length) : length (text.take count) = count := by
  -- Neither part of the text can have fewer bytes than characters.
  have whole := length_append (text.take count) (text.drop count)
  rw [List.take_append_drop, ascii] at whole
  have front := length_le_bytes (text.take count)
  have back := length_le_bytes (text.drop count)
  rw [List.length_take] at front
  rw [List.length_drop] at back
  omega

/-- A later byte offset has no fewer characters in front of it. -/
theorem charsBefore_mono (text : Text) {early late : Nat} (le : early ≤ late) :
    charsBefore early text ≤ charsBefore late text := by
  induction text generalizing early late with
  | nil => exact Nat.le_refl 0
  | cons c rest ih =>
    simp only [charsBefore]
    -- A character that fits in front of the earlier offset fits in front of the later one.
    by_cases fits : c.utf8Size ≤ early
    · rw [if_pos fits, if_pos (Nat.le_trans fits le)]
      have others := ih (Nat.sub_le_sub_right le c.utf8Size)
      omega
    · rw [if_neg fits]
      exact Nat.zero_le _

/-- Behind the bytes of some first characters, exactly those are counted. -/
theorem charsBefore_take (text : Text) {count : Nat} (bound : count ≤ text.length) :
    charsBefore (length (text.take count)) text = count := by
  induction text generalizing count with
  | nil =>
    have none : count = 0 := by simpa using bound
    rw [none]
    rfl
  | cons c rest ih =>
    cases count with
    -- No character fits into no bytes.
    | zero =>
      have positive := c.utf8Size_pos
      simp only [List.take_zero, length, charsBefore]
      rw [if_neg (by omega)]
    | succ count =>
      have inner : count ≤ rest.length := by simpa using bound
      simp only [List.take_succ_cons, length, charsBefore]
      -- The first character uses up its own bytes and leaves those of the others.
      rw [if_pos (by omega), Nat.add_sub_cancel_left, ih inner]

/-- The character offset of a later byte offset is no earlier. -/
theorem charOffset_mono (text : Text) {early late : Nat} (le : early ≤ late) :
    charOffset text early ≤ charOffset text late := by
  unfold charOffset
  -- Both ways of counting are monotone.
  split
  · exact le
  · rw [length_salvage_take, length_salvage_take]
    exact charsBefore_mono text le

/-- Behind the bytes of some first characters, the character offset is their number. -/
theorem charOffset_take (text : Text) {count : Nat} (bound : count ≤ text.length) :
    charOffset text (length (text.take count)) = count := by
  unfold charOffset
  split
  · next ascii =>
    exact length_take_ascii (by simpa using ascii) bound
  · rw [length_salvage_take]
    exact charsBefore_take text bound

/-- An offset inside the bytes is an offset inside the text. -/
theorem charOffset_le (text : Text) {offset : Nat} (bound : offset ≤ length text) :
    charOffset text offset ≤ text.length := by
  -- The last offset counts all the characters.
  have last := charOffset_take text (Nat.le_refl text.length)
  rw [List.take_length] at last
  rw [← last]
  exact charOffset_mono text bound

/-- Of two boundaries the earlier one has fewer characters in front of it. -/
theorem charOffset_lt {text : Text} {early late : Nat} (first : Boundary text early)
    (second : Boundary text late) (less : early < late) :
    charOffset text early < charOffset text late := by
  obtain ⟨m, m_le, rfl⟩ := first
  obtain ⟨n, n_le, rfl⟩ := second
  rw [charOffset_take text m_le, charOffset_take text n_le]
  by_contra more
  -- A greater number of characters would have at least as many bytes.
  have bytes := length_take_mono text (Nat.le_of_not_lt more)
  omega

/-- The bytes in front of a boundary are those of the characters in front of it. -/
theorem take_encode (text : Text) (count : Nat) :
    (encode text).take (length (text.take count)) = encode (text.take count) := by
  -- The bytes fall into those of the first characters and those of the rest.
  have split : encode text = encode (text.take count) ++ encode (text.drop count) := by
    rw [← encode_append, List.take_append_drop]
  rw [split, ← length_encode, List.take_left]

/-- The bytes between two boundaries are those of the characters between them; there are none where
the second boundary stands in front of the first. -/
theorem bytes_between {text : Text} {early late : Nat} (first : Boundary text early)
    (second : Boundary text late) :
    ((encode text).take late).drop early =
      encode (text.slice (charOffset text early) (charOffset text late)) := by
  obtain ⟨m, m_le, rfl⟩ := first
  obtain ⟨n, n_le, rfl⟩ := second
  rw [charOffset_take text m_le, charOffset_take text n_le, take_encode, Text.slice, ← List.drop_take]
  by_cases ordered : m ≤ n
  · -- The characters in front of the earlier boundary are among those in front of the later one.
    have front : (text.take n).take m = text.take m := by
      rw [List.take_take, Nat.min_eq_left ordered]
    have split : encode (text.take n) = encode (text.take m) ++ encode ((text.take n).drop m) := by
      rw [← encode_append, ← front, List.take_append_drop]
    rw [split, ← length_encode, List.drop_left]
  · -- What stands in front of the second boundary ends before the first one.
    have short : (encode (text.take n)).length ≤ length (text.take m) := by
      rw [length_encode]
      exact length_take_mono text (by omega)
    rw [List.drop_eq_nil_of_le short, List.drop_eq_nil_of_le (by rw [List.length_take]; omega)]
    rfl

/-- A later byte offset is on no earlier line. -/
theorem row_mono (text : Text) {early late : Nat} (le : early ≤ late) :
    (pointOf text early).1 ≤ (pointOf text late).1 :=
  ((List.take_prefix_take_left le).sublist).count_le 10

end Utf8

end ImportOrder
