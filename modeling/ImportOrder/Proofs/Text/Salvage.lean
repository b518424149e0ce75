import ImportOrder.Proofs.Text.Utf8
import Mathlib.Data.List.Basic

/-! Bytes cut off anywhere: the characters that are whole are read, and the rest of a cut one gives
nothing. So an offset counts the characters whose bytes end at or before it. -/

namespace ImportOrder

namespace Utf8

/-- Where the bytes of a character end too early, all that are there are good. -/
theorem continuation_cut {more bits low high good number : Nat} {bytes : Bytes}
    (read : continuation more bits low high good bytes = .ok number) (count : Nat)
    (short : count < more) :
    continuation more bits low high good (bytes.take count) = .error (good + count, .cutShort) := by
  -- The induction is on the bytes that are still missing. The bounds differ for the first of them
  -- only, so they are free.
  induction more generalizing bits low high good bytes count with
  | zero => omega
  | succ more ih =>
    cases bytes with
    | nil => simp [continuation] at read
    | cons byte rest =>
      -- The whole character was read, so each of its bytes is in its range.
      by_cases inside : (low ≤ byte.toNat && byte.toNat ≤ high) = true
      · simp only [continuation, inside, if_true] at read
        cases count with
        | zero => rfl
        | succ count =>
          simp only [List.take_succ_cons, continuation, inside, if_true]
          rw [ih read count (by omega)]
          congr 2
          omega
      · simp [continuation, inside] at read

/-- Bytes that are done with are passed over. -/
theorem salvageFrom_skip (passed rest : Bytes) :
    salvageFrom passed.length (passed ++ rest) = salvage rest := by
  induction passed with
  | nil => rfl
  | cons byte passed ih => exact ih

/-- The bytes of a character give that character, and reading goes on behind them. -/
theorem salvage_char (c : Char) (rest : Bytes) :
    salvage (String.utf8EncodeChar c ++ rest) = c :: salvage rest := by
  -- The first byte tells how many follow, and these are counted down without being read again.
  obtain ⟨first, others, lead, spelled, found, more, read⟩ := spells_char c
  rw [spelled, List.cons_append, salvage]
  simp only [salvageFrom, found, read rest, Char.ofNat_toNat]
  rw [more, salvageFrom_skip]

/-- Some of the bytes of a character, but not all, give nothing. -/
theorem salvage_cut (c : Char) {count : Nat} (short : count < c.utf8Size) :
    salvage ((String.utf8EncodeChar c).take count) = [] := by
  -- A cut in front of the first byte leaves nothing. Behind it, the first byte is there and some of
  -- the others are missing.
  obtain ⟨first, others, lead, spelled, found, more, read⟩ := spells_char c
  have size : others.length + 1 = c.utf8Size := by
    rw [← String.length_utf8EncodeChar, spelled, List.length_cons]
  cases count with
  | zero => rfl
  | succ count =>
    have whole := read []
    rw [List.append_nil] at whole
    -- The first byte promises more than there is, and the others are left out with it.
    have cut := continuation_cut whole count (by omega)
    have width : 1 + count - 1 = (others.take count).length := by
      rw [List.length_take]
      omega
    have rest := salvageFrom_skip (others.take count) []
    rw [List.append_nil] at rest
    rw [spelled, List.take_succ_cons, salvage]
    simp only [salvageFrom, found, cut]
    rw [width, rest]
    rfl

/-- The number of characters whose bytes fit in front of a byte offset, one after the other. -/
def charsBefore : (offset : Nat) → Text → Nat
  | _, [] => 0
  | offset, c :: rest =>
    -- The count stops at the first character that does not fit, even if a narrower one comes behind
    -- it.
    if c.utf8Size ≤ offset then charsBefore (offset - c.utf8Size) rest + 1 else 0

/-- The bytes in front of an offset give the characters that fit in front of it. -/
theorem salvage_take (text : Text) (offset : Nat) :
    salvage ((encode text).take offset) = text.take (charsBefore offset text) := by
  -- The induction is on the characters. What a character leaves of the offset is the offset for the
  -- others.
  induction text generalizing offset with
  | nil => simp [encode, salvage, salvageFrom]
  | cons c rest ih =>
    have split : encode (c :: rest) = String.utf8EncodeChar c ++ encode rest := rfl
    have size := String.length_utf8EncodeChar c
    rw [split, List.take_append, size]
    simp only [charsBefore]
    by_cases fits : c.utf8Size ≤ offset
    · -- The first character is whole, and the others follow it.
      rw [if_pos fits, List.take_of_length_le (by omega), salvage_char, ih, List.take_succ_cons]
    · -- The offset lies in the first character, which gives nothing.
      have none : offset - c.utf8Size = 0 := by omega
      rw [if_neg fits, none, List.take_zero, List.append_nil, salvage_cut c (by omega),
        List.take_zero]

/-- There are no more characters in front of an offset than there are. -/
theorem charsBefore_le (offset : Nat) (text : Text) : charsBefore offset text ≤ text.length := by
  induction text generalizing offset with
  | nil => exact Nat.le_refl 0
  | cons c rest ih =>
    have others := ih (offset - c.utf8Size)
    simp only [charsBefore, List.length_cons]
    split <;> omega

/-- Decoding counts the characters that fit. -/
theorem length_salvage_take (text : Text) (offset : Nat) :
    (salvage ((encode text).take offset)).length = charsBefore offset text := by
  rw [salvage_take, List.length_take, Nat.min_eq_left (charsBefore_le offset text)]

/-- How many characters of a text have all their bytes in front of an offset. -/
def endingBy (text : Text) (offset : Nat) : Nat :=
  (List.range text.length).countP fun place => (encode (text.take (place + 1))).length ≤ offset

/-- The characters that fit one after the other are those whose bytes end in front of the offset. -/
theorem charsBefore_eq_endingBy (text : Text) (offset : Nat) :
    charsBefore offset text = endingBy text offset := by
  induction text generalizing offset with
  | nil => rfl
  | cons c rest ih =>
    have size : ∀ taken, (encode (c :: taken)).length = c.utf8Size + (encode taken).length := by
      intro taken
      rw [length_encode, length, length_encode]
    -- The first character is counted apart, and each of the others with its bytes in front.
    have first : endingBy (c :: rest) offset = (if c.utf8Size ≤ offset then 1 else 0) +
        (List.range rest.length).countP fun place =>
          c.utf8Size + (encode (rest.take (place + 1))).length ≤ offset := by
      rw [endingBy, List.length_cons, List.range_succ_eq_map, List.countP_cons, List.countP_map,
        Nat.add_comm]
      simp [Function.comp_def, encode]
    rw [first, charsBefore, ih, endingBy]
    by_cases fits : c.utf8Size ≤ offset
    · -- The others have the bytes that the first character leaves.
      rw [if_pos fits, if_pos fits, Nat.add_comm]
      congr 2
      funext place
      simp only [decide_eq_decide]
      omega
    · -- What does not hold the first character holds none of the others.
      rw [if_neg fits, if_neg fits, Nat.zero_add, eq_comm, List.countP_eq_zero]
      intro place _
      simp only [decide_eq_true_eq]
      omega

end Utf8

end ImportOrder
