import ImportOrder.Text.Utf8
import Mathlib.Data.List.Basic

/-! The bytes of a text: decoding gives the text back, and offsets at character boundaries count the
characters in front of them. -/

namespace ImportOrder

namespace Utf8

/-- A continuation byte in its range is read. -/
theorem continuation_step {more bits low high good : Nat} {byte : UInt8} {rest : Bytes}
    (least : low ≤ byte.toNat) (greatest : byte.toNat ≤ high) :
    continuation (more + 1) bits low high good (byte :: rest) =
      continuation more (bits * 64 + (byte.toNat - 0x80)) 0x80 0xBF (good + 1) rest := by
  simp [continuation, least, greatest]

/-- Where no byte is left to read, the number is complete. -/
theorem continuation_done (bits low high good : Nat) (bytes : Bytes) :
    continuation 0 bits low high good bytes = .ok bits := by
  unfold continuation
  rfl

/-- A byte made of a number below 256 is that number. -/
theorem toNat_ofNat_small {n : Nat} (small : n < 256) : (UInt8.ofNat n).toNat = n := by
  -- A byte is taken modulo 256, which changes nothing below it.
  simp only [UInt8.toNat_ofNat']
  omega

/-- The code point of a character is none of a surrogate's. -/
theorem toNat_valid (c : Char) : c.toNat < 0xD800 ∨ 0xDFFF < c.toNat ∧ c.toNat < 0x110000 := by
  have valid := c.valid
  simpa [UInt32.isValidChar, Nat.isValidChar] using valid

/-- The only byte of a character of one byte. -/
theorem lead?_one {byte : Nat} (small : byte < 0x80) : lead? byte = some ⟨0, byte, 0, 0⟩ := by
  unfold lead?
  rw [if_pos small]

/-- The first byte of a character of two bytes. -/
theorem lead?_two (byte : Nat) (least : 0xC2 ≤ byte) (greatest : byte < 0xE0) :
    lead? byte = some ⟨1, byte - 0xC0, 0x80, 0xBF⟩ := by
  unfold lead?
  rw [if_neg (by omega), if_neg (by omega), if_pos greatest]

/-- The first byte of a character of three bytes, and what the second one has to be. -/
theorem lead?_three (byte : Nat) (least : 0xE0 ≤ byte) (greatest : byte < 0xF0) :
    ∃ lead, lead? byte = some lead ∧ lead.more = 2 ∧ lead.bits = byte - 0xE0 ∧
      ∀ second, 0x80 ≤ second → second ≤ 0xBF → (byte = 0xE0 → 0xA0 ≤ second) →
        (byte = 0xED → second ≤ 0x9F) → lead.low ≤ second ∧ second ≤ lead.high := by
  -- Two first bytes narrow the range of the second, against short numbers and surrogates.
  by_cases low : byte = 0xE0
  · subst low
    exact ⟨_, rfl, rfl, rfl, fun second _ high bound _ => ⟨bound rfl, high⟩⟩
  · by_cases surrogate : byte = 0xED
    · subst surrogate
      exact ⟨_, rfl, rfl, rfl, fun second least _ _ bound => ⟨least, bound rfl⟩⟩
    · refine ⟨⟨2, byte - 0xE0, 0x80, 0xBF⟩, ?_, rfl, rfl, fun second least high _ _ => ⟨least, high⟩⟩
      unfold lead?
      rw [if_neg (by omega), if_neg (by omega), if_neg (by omega), if_neg (by simpa using low),
        if_neg (by simpa using surrogate), if_pos (by omega)]

/-- The first byte of a character of four bytes, and what the second one has to be. -/
theorem lead?_four (byte : Nat) (least : 0xF0 ≤ byte) (greatest : byte ≤ 0xF4) :
    ∃ lead, lead? byte = some lead ∧ lead.more = 3 ∧ lead.bits = byte - 0xF0 ∧
      ∀ second, 0x80 ≤ second → second ≤ 0xBF → (byte = 0xF0 → 0x90 ≤ second) →
        (byte = 0xF4 → second ≤ 0x8F) → lead.low ≤ second ∧ second ≤ lead.high := by
  -- The first and the last of these bytes narrow the range of the second.
  by_cases low : byte = 0xF0
  · subst low
    exact ⟨_, rfl, rfl, rfl, fun second _ high bound _ => ⟨bound rfl, high⟩⟩
  · by_cases last : byte = 0xF4
    · subst last
      exact ⟨_, rfl, rfl, rfl, fun second least _ _ bound => ⟨least, bound rfl⟩⟩
    · refine ⟨⟨3, byte - 0xF0, 0x80, 0xBF⟩, ?_, rfl, rfl, fun second least high _ _ => ⟨least, high⟩⟩
      unfold lead?
      rw [if_neg (by omega), if_neg (by omega), if_neg (by omega), if_neg (by simp; omega),
        if_neg (by simp; omega), if_neg (by omega), if_neg (by simpa using low), if_pos (by omega)]

/-- The bytes of a number: the first one promises the others, and those keep the promise whatever
follows them. -/
def Spells (bytes : Bytes) (number : Nat) : Prop :=
  ∃ first others lead, bytes = first :: others ∧ lead? first.toNat = some lead ∧
    lead.more = others.length ∧
    ∀ rest, continuation lead.more lead.bits lead.low lead.high 1 (others ++ rest) = .ok number

/-- One byte spells a number of seven bits. -/
theorem spells_one {n : Nat} (small : n ≤ 0x7F) : Spells [UInt8.ofNat n] n := by
  have first : (UInt8.ofNat n).toNat = n := toNat_ofNat_small (by omega)
  -- Nothing follows the byte, and it carries the number itself.
  have lead := lead?_one (first.symm ▸ (by omega : n < 0x80))
  refine ⟨_, _, _, rfl, lead, rfl, fun rest => ?_⟩
  rw [continuation_done, first]

/-- Two bytes spell a number of eleven bits. -/
theorem spells_two {n : Nat} (least : 0x7F < n) (greatest : n ≤ 0x7FF) :
    Spells [UInt8.ofNat (n / 64 % 32 + 192), UInt8.ofNat (n % 64 + 128)] n := by
  have first : (UInt8.ofNat (n / 64 % 32 + 192)).toNat = n / 64 % 32 + 192 :=
    toNat_ofNat_small (by omega)
  have second : (UInt8.ofNat (n % 64 + 128)).toNat = n % 64 + 128 := toNat_ofNat_small (by omega)
  have lead := lead?_two (n / 64 % 32 + 192) (by omega) (by omega)
  rw [← first] at lead
  refine ⟨_, _, _, rfl, lead, rfl, fun rest => ?_⟩
  -- The second byte carries six bits, below which the first adds the others.
  have low : 0x80 ≤ (UInt8.ofNat (n % 64 + 128)).toNat := by omega
  have high : (UInt8.ofNat (n % 64 + 128)).toNat ≤ 0xBF := by omega
  rw [List.cons_append, continuation_step low high, continuation_done, first, second]
  exact congrArg Except.ok
    (show (n / 64 % 32 + 192 - 192) * 64 + (n % 64 + 128 - 128) = n by omega)

/-- Three bytes spell a number of sixteen bits that is no surrogate. -/
theorem spells_three {n : Nat} (least : 0x7FF < n) (greatest : n ≤ 0xFFFF)
    (valid : n < 0xD800 ∨ 0xDFFF < n) :
    Spells [UInt8.ofNat (n / 4096 % 16 + 224), UInt8.ofNat (n / 64 % 64 + 128),
      UInt8.ofNat (n % 64 + 128)] n := by
  have first : (UInt8.ofNat (n / 4096 % 16 + 224)).toNat = n / 4096 % 16 + 224 :=
    toNat_ofNat_small (by omega)
  have second : (UInt8.ofNat (n / 64 % 64 + 128)).toNat = n / 64 % 64 + 128 :=
    toNat_ofNat_small (by omega)
  have third : (UInt8.ofNat (n % 64 + 128)).toNat = n % 64 + 128 := toNat_ofNat_small (by omega)
  obtain ⟨lead, found, more, bits, range⟩ :=
    lead?_three (n / 4096 % 16 + 224) (by omega) (by omega)
  -- The range of the second byte shuts out the short numbers and the surrogates.
  obtain ⟨low, high⟩ := range (n / 64 % 64 + 128) (by omega) (by omega) (by omega) (by omega)
  refine ⟨_, _, lead, rfl, by rw [first]; exact found, more, fun rest => ?_⟩
  rw [more, bits, List.cons_append, continuation_step (by rw [second]; exact low)
    (by rw [second]; exact high), List.cons_append, continuation_step (by rw [third]; omega)
    (by rw [third]; omega), second, third, continuation_done]
  exact congrArg Except.ok (by omega)

/-- Four bytes spell a number above sixteen bits up to the greatest code point. -/
theorem spells_four {n : Nat} (least : 0xFFFF < n) (greatest : n < 0x110000) :
    Spells [UInt8.ofNat (n / 262144 % 8 + 240), UInt8.ofNat (n / 4096 % 64 + 128),
      UInt8.ofNat (n / 64 % 64 + 128), UInt8.ofNat (n % 64 + 128)] n := by
  have first : (UInt8.ofNat (n / 262144 % 8 + 240)).toNat = n / 262144 % 8 + 240 :=
    toNat_ofNat_small (by omega)
  have second : (UInt8.ofNat (n / 4096 % 64 + 128)).toNat = n / 4096 % 64 + 128 :=
    toNat_ofNat_small (by omega)
  have third : (UInt8.ofNat (n / 64 % 64 + 128)).toNat = n / 64 % 64 + 128 :=
    toNat_ofNat_small (by omega)
  have fourth : (UInt8.ofNat (n % 64 + 128)).toNat = n % 64 + 128 := toNat_ofNat_small (by omega)
  obtain ⟨lead, found, more, bits, range⟩ :=
    lead?_four (n / 262144 % 8 + 240) (by omega) (by omega)
  -- The range of the second byte shuts out the short numbers and those above the last code point.
  obtain ⟨low, high⟩ := range (n / 4096 % 64 + 128) (by omega) (by omega) (by omega) (by omega)
  refine ⟨_, _, lead, rfl, by rw [first]; exact found, more, fun rest => ?_⟩
  rw [more, bits, List.cons_append, continuation_step (by rw [second]; exact low)
    (by rw [second]; exact high), List.cons_append, continuation_step (by rw [third]; omega)
    (by rw [third]; omega), List.cons_append, continuation_step (by rw [fourth]; omega)
    (by rw [fourth]; omega), second, third, fourth, continuation_done]
  exact congrArg Except.ok (by omega)

/-- The bytes of a character spell its code point. -/
theorem spells_char (c : Char) : Spells (String.utf8EncodeChar c) c.toNat := by
  have valid := toNat_valid c
  have same : c.val.toNat = c.toNat := rfl
  simp only [String.utf8EncodeChar, same]
  -- The cases are those of the encoder, by the size of the code point.
  by_cases one : c.toNat ≤ 0x7F
  · rw [if_pos one]
    exact spells_one one
  · rw [if_neg one]
    by_cases two : c.toNat ≤ 0x7FF
    · rw [if_pos two]
      exact spells_two (by omega) two
    · rw [if_neg two]
      by_cases three : c.toNat ≤ 0xFFFF
      · rw [if_pos three]
        exact spells_three (by omega) three (by omega)
      · rw [if_neg three]
        exact spells_four (by omega) (by omega)

/-- Bytes that belong to a character already read are passed over. -/
theorem decodeFrom_skip (position : Nat) (passed rest : Bytes) :
    decodeFrom position passed.length (passed ++ rest) =
      decodeFrom (position + passed.length) 0 rest := by
  induction passed generalizing position with
  | nil => rfl
  | cons byte passed ih =>
    -- The position counts the bytes that are passed over.
    have moved : position + (passed.length + 1) = position + 1 + passed.length := by omega
    rw [List.length_cons, moved, List.cons_append, ← ih (position + 1)]
    rfl

/-- The bytes of a character give that character, and reading goes on behind them. -/
theorem decodeFrom_char (position : Nat) (c : Char) (rest : Bytes) :
    decodeFrom position 0 (String.utf8EncodeChar c ++ rest) = (do
      let text ← decodeFrom (position + (String.utf8EncodeChar c).length) 0 rest
      return c :: text) := by
  obtain ⟨first, others, lead, spelled, found, more, read⟩ := spells_char c
  -- Behind the first byte, the others are passed over and reading goes on.
  have again : decodeFrom (position + 1) lead.more (others ++ rest) =
      decodeFrom (position + (first :: others).length) 0 rest := by
    rw [more, decodeFrom_skip, List.length_cons]
    congr 1
    omega
  rw [spelled, List.cons_append, ← again]
  simp only [decodeFrom, found, read rest, Char.ofNat_toNat]

/-- The bytes of two texts side by side. -/
theorem encode_append (left right : Text) : encode (left ++ right) = encode left ++ encode right := by
  simp [encode]

/-- The bytes of a text give the text back. -/
theorem decode_encode (text : Text) : decode (encode text) = .ok text := by
  -- Faults name positions, so the position of the first byte is kept general.
  suffices general : ∀ position, decodeFrom position 0 (encode text) = .ok text from general 0
  induction text with
  | nil => intro position; rfl
  | cons c rest ih =>
    intro position
    have split : encode (c :: rest) = String.utf8EncodeChar c ++ encode rest := rfl
    rw [split, decodeFrom_char, ih]
    rfl

/-- The count of bytes is the length of the byte string. -/
theorem length_encode (text : Text) : (encode text).length = length text := by
  induction text with
  | nil => rfl
  | cons c rest ih =>
    have split : encode (c :: rest) = String.utf8EncodeChar c ++ encode rest := rfl
    rw [split, List.length_append, ih, String.length_utf8EncodeChar, length]

end Utf8

end ImportOrder
