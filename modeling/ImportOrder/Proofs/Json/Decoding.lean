import ImportOrder.Proofs.Json.Stripping

/-! Reading a plain document gives its value, whatever white space stands between its tokens. -/

namespace ImportOrder.Json

section Strings

variable {opened fuel : Nat}

/-- A character that stands for itself is read as it is. -/
theorem readString_plain {c : Char} (unquoted : c ≠ '"') (unescaped : c ≠ '\\')
    (printing : 0x20 ≤ c.toNat) (rest : Text) :
    readString opened (fuel + 1) (c :: rest) =
      (readString opened fuel rest).map fun (body, rest) => (c :: body, rest) := by
  rw [readString, if_neg (Nat.not_lt.mpr printing)]
  · cases readString opened fuel rest <;> rfl
  · -- The reader has a rule of its own for the quote, and three for the backslash.
    exact unquoted
  · exact fun same _ => unescaped same
  · exact fun _ same _ => unescaped same
  · exact fun _ _ same _ => unescaped same

/-- A short escape is read as what it stands for. -/
theorem readString_short {escape : Char × Char} (known : escape ∈ shortEscapes) (rest : Text) :
    readString opened (fuel + 1) ('\\' :: escape.1 :: rest) =
      (readString opened fuel rest).map fun (body, rest) => (escape.2 :: body, rest) := by
  -- The table of the reader has all eight letters, and none of them is that of a numbered escape.
  have table : ∀ escape ∈ shortEscapes, escape.1 ≠ 'u' ∧ escaped? escape.1 = some escape.2 := by
    decide
  obtain ⟨other, means⟩ := table escape known
  rw [readString, means]
  · cases readString opened fuel rest <;> rfl
  · exact other

/-- A numbered escape is read as its character, and the string goes on behind it. -/
theorem readString_numbered {text rest : Text} {c : Char}
    (read : readUnicode text = .ok (c, rest)) :
    readString opened (fuel + 1) ('\\' :: 'u' :: text) =
      (readString opened fuel rest).map fun (body, rest) => (c :: body, rest) := by
  simp only [readString, read, Bind.bind, Except.bind]
  cases readString opened fuel rest <;> rfl

/-- Four digits that are not the end of the text are read as their number. -/
theorem hex4?_code (code : HexCode) (c : Char) (rest : Text) :
    hex4? (code.text ++ c :: rest) = some (code.value, c :: rest) := by
  simp [HexCode.text, hex4?, code.first.means, code.second.means, code.third.means,
    code.fourth.means, HexCode.value]

/-- A numbered escape in front of something else than another one stands for its own character. -/
theorem readUnicode_alone (code : HexCode) {c : Char} {rest : Text}
    (other : isHighHalf code.value = false ∨ ∀ more, c :: rest ≠ '\\' :: 'u' :: more) :
    readUnicode (code.text ++ c :: rest) = .ok (charOf code.value, c :: rest) := by
  simp only [readUnicode, hex4?_code]
  -- Only a leading half makes the reader look at what follows.
  rcases other with low | other
  · simp [low]
  · split
    · rfl
    · split
      · rename_i more same
        exact absurd same (other more)
      · rfl

/-- Two numbered escapes in a row stand for one character if they are its halves. -/
theorem readUnicode_pair (high low : HexCode) (c : Char) (rest : Text) :
    readUnicode (high.text ++ '\\' :: 'u' :: (low.text ++ c :: rest)) =
      if isHighHalf high.value && isLowHalf low.value then
        .ok (joinHalves high.value low.value, c :: rest)
      else .ok (charOf high.value, '\\' :: 'u' :: (low.text ++ c :: rest)) := by
  -- The reader asks for a character behind the second escape too, and there is one.
  have long : ¬(low.text ++ c :: rest).length < 5 := by simp [HexCode.text]
  simp only [readUnicode, hex4?_code, if_neg long]
  cases isHighHalf high.value with
  | false => rfl
  | true =>
    cases isLowHalf low.value with
    | false => simp
    | true => simp

theorem StringLiteral.body_cons (part : StringPart) (rest : StringLiteral) (behind : Text) :
    StringLiteral.body (part :: rest) ++ behind =
      part.text ++ (StringLiteral.body rest ++ behind) := by
  simp [StringLiteral.body]

/-- What follows a part is never empty, and it looks like a numbered escape only if it is one. -/
theorem StringLiteral.head_body (parts : StringLiteral) (behind : Text) :
    ∃ c more, StringLiteral.body parts ++ '"' :: behind = c :: more ∧
      ((∀ code rest, parts ≠ .numbered code :: rest) →
        ∀ digits, c :: more ≠ '\\' :: 'u' :: digits) := by
  -- The first part tells what comes first, and behind the last part it is the quote.
  cases parts with
  | nil => exact ⟨'"', behind, rfl, fun _ _ same => by simp at same⟩
  | cons part rest =>
    rw [StringLiteral.body_cons]
    cases part with
    | plain c unquoted unescaped printing =>
      exact ⟨c, _, rfl, fun _ _ same => unescaped (List.cons.inj same).1⟩
    | short escape known =>
      refine ⟨'\\', _, rfl, fun _ _ same => ?_⟩
      -- The letter of a short escape is not that of a numbered one.
      have table : ∀ escape ∈ shortEscapes, escape.1 ≠ 'u' := by decide
      exact table escape known (List.cons.inj (List.cons.inj same).2).1
    | numbered code => exact ⟨'\\', _, rfl, fun other => absurd rfl (other code rest)⟩

theorem StringLiteral.length_body_cons (part : StringPart) (rest : StringLiteral) :
    (StringLiteral.body (part :: rest)).length =
      part.text.length + (StringLiteral.body rest).length := by
  simp [StringLiteral.body]

/-- A string literal is read as the text that it stands for. -/
theorem readString_body (parts : StringLiteral) (behind : Text)
    (enough : (StringLiteral.body parts).length < fuel) :
    readString opened fuel (StringLiteral.body parts ++ '"' :: behind) =
      .ok (StringLiteral.value parts, behind) := by
  -- Every part takes one step and at least one character, so the fuel lasts.
  fun_induction StringLiteral.value parts generalizing fuel with
  | case1 =>
    obtain ⟨fuel, rfl⟩ := Nat.exists_eq_succ_of_ne_zero (Nat.ne_zero_of_lt enough)
    rfl
  | case2 c unquoted unescaped printing rest ih =>
    obtain ⟨fuel, rfl⟩ := Nat.exists_eq_succ_of_ne_zero (Nat.ne_zero_of_lt enough)
    rw [StringLiteral.length_body_cons] at enough
    rw [StringLiteral.body_cons]
    show readString opened (fuel + 1) (c :: (StringLiteral.body rest ++ '"' :: behind)) = _
    rw [readString_plain unquoted unescaped printing,
      ih (by simp [StringPart.text] at enough; omega)]
    rfl
  | case3 escape known rest ih =>
    obtain ⟨fuel, rfl⟩ := Nat.exists_eq_succ_of_ne_zero (Nat.ne_zero_of_lt enough)
    rw [StringLiteral.length_body_cons] at enough
    rw [StringLiteral.body_cons]
    show readString opened (fuel + 1)
      ('\\' :: escape.1 :: (StringLiteral.body rest ++ '"' :: behind)) = _
    rw [readString_short known, ih (by simp [StringPart.text] at enough; omega)]
    rfl
  | case4 high low rest halves ih =>
    -- The two halves are read as one character, with one step.
    obtain ⟨fuel, rfl⟩ := Nat.exists_eq_succ_of_ne_zero (Nat.ne_zero_of_lt enough)
    obtain ⟨c, more, next, -⟩ := StringLiteral.head_body rest behind
    rw [StringLiteral.length_body_cons, StringLiteral.length_body_cons] at enough
    rw [StringLiteral.body_cons, StringLiteral.body_cons, next]
    show readString opened (fuel + 1)
      ('\\' :: 'u' :: (high.text ++ '\\' :: 'u' :: (low.text ++ c :: more))) = _
    have read := readUnicode_pair high low c more
    rw [if_pos halves] at read
    rw [readString_numbered read, ← next, ih (by simp [StringPart.text] at enough; omega)]
    rfl
  -- Two escapes in a row that are no halves: only the first is read, the second is left in place.
  | case5 high low rest apart ih =>
    obtain ⟨fuel, rfl⟩ := Nat.exists_eq_succ_of_ne_zero (Nat.ne_zero_of_lt enough)
    obtain ⟨c, more, next, -⟩ := StringLiteral.head_body rest behind
    rw [StringLiteral.length_body_cons] at enough
    have shape : StringLiteral.body (.numbered low :: rest) ++ '"' :: behind =
        '\\' :: 'u' :: (low.text ++ c :: more) := by
      rw [StringLiteral.body_cons, next]
      rfl
    rw [StringLiteral.body_cons, shape]
    show readString opened (fuel + 1)
      ('\\' :: 'u' :: (high.text ++ '\\' :: 'u' :: (low.text ++ c :: more))) = _
    have read := readUnicode_pair high low c more
    rw [if_neg apart] at read
    rw [readString_numbered read, ← shape, ih (by simp [StringPart.text] at enough; omega)]
    rfl
  | case6 code rest single ih =>
    obtain ⟨fuel, rfl⟩ := Nat.exists_eq_succ_of_ne_zero (Nat.ne_zero_of_lt enough)
    obtain ⟨c, more, next, other⟩ := StringLiteral.head_body rest behind
    rw [StringLiteral.length_body_cons] at enough
    rw [StringLiteral.body_cons, next]
    show readString opened (fuel + 1) ('\\' :: 'u' :: (code.text ++ c :: more)) = _
    -- What follows is no numbered escape, so the reader does not look for a second half.
    have read := readUnicode_alone code (.inr (other single))
    rw [readString_numbered read, ← next, ih (by simp [StringPart.text] at enough; omega)]
    rfl

end Strings

section Numbers

/-- A text does not go on with a digit. -/
def DigitsEnd (text : Text) : Prop := ∀ c rest, text = c :: rest → c.isDigit = false

/-- Digits are taken up to where they end. -/
theorem span_digits {digits rest : Text} (allDigits : ∀ c ∈ digits, c.isDigit = true)
    (ends : DigitsEnd rest) :
    (digits ++ rest).takeWhile Char.isDigit = digits ∧
      (digits ++ rest).dropWhile Char.isDigit = rest := by
  -- What follows starts with something else than a digit, if it starts at all.
  have stops : rest.takeWhile Char.isDigit = [] ∧ rest.dropWhile Char.isDigit = rest := by
    cases rest with
    | nil => exact ⟨rfl, rfl⟩
    | cons c rest =>
      have other := ends c rest rfl
      simp [other]
  rw [List.takeWhile_append_of_pos allDigits, List.dropWhile_append_of_pos allDigits, stops.1,
    stops.2, List.append_nil]
  exact ⟨rfl, rfl⟩

/-- A text does not go on as a number does. -/
def NumberEnds (text : Text) : Prop :=
  ∀ c rest, text = c :: rest → c.isDigit = false ∧ c ≠ '.' ∧ c ≠ 'e' ∧ c ≠ 'E'

/-- The exponent of a number is read as its power of ten, and nothing is read if there is none. -/
theorem readExponent_text (number : NumberLiteral) {after : Text} (ends : NumberEnds after) :
    readExponent (number.exponentText ++ after) =
      number.exponent.map fun exponent => (exponent.value, after) := by
  have digitsEnd : DigitsEnd after := fun c rest shape => (ends c rest shape).1
  rw [NumberLiteral.exponentText]
  cases number.exponent with
  -- Without an exponent, what follows must not be taken for one.
  | none =>
    cases after with
    | nil => rfl
    | cons c rest =>
      obtain ⟨-, -, small, large⟩ := ends c rest rfl
      simp [readExponent, small, large]
  | some exponent =>
    obtain ⟨taken, left⟩ := span_digits exponent.allDigits digitsEnd
    have letter : (exponent.letter == 'e' || exponent.letter == 'E') = true := by
      rcases exponent.isLetter with same | same <;> rw [same] <;> rfl
    -- The letter alone is no exponent; at least one digit comes behind it.
    obtain ⟨digit, others, digits⟩ := List.exists_cons_of_ne_nil exponent.some_digit
    have isDigit := exponent.allDigits digit (by simp [digits])
    have noMinus := ne_of_isDigit isDigit (show '-'.isDigit = false by decide)
    have noPlus := ne_of_isDigit isDigit (show '+'.isDigit = false by decide)
    -- The sign is told by the first character behind the letter, which otherwise is a digit.
    cases sign : exponent.sign with
    | none =>
      simp only [Exponent.text, Exponent.signText, Exponent.value, sign, digits, readExponent,
        List.cons_append, List.nil_append, letter, if_pos, Option.map_some] at taken left ⊢
      simp [noMinus, noPlus, taken, left]
    | some negative =>
      cases negative with
      | true =>
        simp only [Exponent.text, Exponent.signText, Exponent.value, sign, digits, readExponent,
          List.cons_append, List.nil_append, letter, if_pos, Option.map_some] at taken left ⊢
        rw [taken, left]
      | false =>
        simp only [Exponent.text, Exponent.signText, Exponent.value, sign, digits, readExponent,
          List.cons_append, List.nil_append, letter, if_pos, Option.map_some] at taken left ⊢
        rw [taken, left]
        simp

/-- Behind the digits of a number, neither another digit nor a point comes before the exponent. -/
theorem exponentText_ends (number : NumberLiteral) {after : Text} (ends : NumberEnds after) {c : Char}
    {rest : Text} (shape : number.exponentText ++ after = c :: rest) :
    c.isDigit = false ∧ c ≠ '.' := by
  rw [NumberLiteral.exponentText] at shape
  cases found : number.exponent with
  | none =>
    rw [found] at shape
    obtain ⟨digit, point, -⟩ := ends c rest shape
    exact ⟨digit, point⟩
  -- Here the letter of the exponent comes first.
  | some exponent =>
    rw [found] at shape
    obtain rfl : exponent.letter = c := (List.cons.inj shape).1
    rcases exponent.isLetter with same | same <;> rw [same] <;> decide

/-- The fraction of a number is read up to its exponent. -/
theorem readFraction_text (number : NumberLiteral) {after : Text} (ends : NumberEnds after) :
    readFraction (number.fractionText ++ (number.exponentText ++ after)) =
      (number.fraction, number.exponentText ++ after) := by
  have digitsEnd : DigitsEnd (number.exponentText ++ after) :=
    fun c rest shape => (exponentText_ends number ends shape).1
  rw [NumberLiteral.fractionText]
  cases found : number.fraction with
  | nil =>
    -- Without a fraction no point follows.
    show readFraction (number.exponentText ++ after) = _
    cases shape : number.exponentText ++ after with
    | nil => rfl
    | cons c rest =>
      have noPoint := (exponentText_ends number ends shape).2
      rw [readFraction]
      exact fun _ _ same => noPoint (List.cons.inj same).1
  | cons digit others =>
    have digits := number.fractionDigits
    rw [found] at digits
    -- The first digit makes it a fraction; the reader takes the others with it.
    obtain ⟨taken, left⟩ :=
      span_digits (fun c member => digits c (List.mem_cons_of_mem _ member)) digitsEnd
    show readFraction ('.' :: digit :: (others ++ (number.exponentText ++ after))) = _
    rw [readFraction, if_pos (digits digit (by simp)), taken, left]

/-- The digits in front of the point are read up to it. -/
theorem readWhole?_text (number : NumberLiteral) {after : Text} (ends : NumberEnds after) :
    readWhole? (number.whole ++ (number.fractionText ++ (number.exponentText ++ after))) =
      some (number.whole, number.fractionText ++ (number.exponentText ++ after)) := by
  -- Either a point comes behind the digits, or what is behind the fraction.
  have digitsEnd : DigitsEnd (number.fractionText ++ (number.exponentText ++ after)) := by
    intro c rest shape
    rw [NumberLiteral.fractionText] at shape
    split at shape
    · exact (exponentText_ends number ends shape).1
    · rw [← (List.cons.inj shape).1]
      decide
  by_cases zero : number.lead = '0'
  · -- A zero stands alone.
    rw [NumberLiteral.whole, number.zeroAlone zero, zero]
    rfl
  · obtain ⟨taken, left⟩ := span_digits number.othersDigits digitsEnd
    show readWhole? (number.lead :: (number.others ++ _)) = _
    rw [readWhole?, if_pos number.leadDigit, taken, left]
    · rfl
    · exact zero

/-- A number is read sign first, then its digits, its fraction and its exponent. -/
theorem readNumber_text (number : NumberLiteral) {after : Text} (ends : NumberEnds after) :
    readNumber (number.text ++ after) = match number.value? with
      | some value => .ok (value, after)
      | none => stop (.longInteger number.whole.length) (number.text ++ after) := by
  have whole := readWhole?_text number ends
  have fraction := readFraction_text number ends
  have exponent := readExponent_text number ends
  have noMinus := ne_of_isDigit number.leadDigit (show '-'.isDigit = false by decide)
  -- What stands behind the sign does not look like one.
  have unsigned : ∀ body, number.whole ++ (number.fractionText ++ (number.exponentText ++ after)) ≠
      '-' :: body := fun body same => noMinus (List.cons.inj same).1
  have shape : number.text ++ after = (if number.negative then ['-'] else []) ++
      (number.whole ++ (number.fractionText ++ (number.exponentText ++ after))) := by
    simp [NumberLiteral.text]
  unfold readNumber NumberLiteral.value?
  rw [shape]
  -- The sign is told by the first character; what stands behind it is read in the same way.
  cases number.negative
  all_goals
    simp only [Bool.false_eq_true, if_false, if_true, List.cons_append, List.nil_append, whole,
      fraction, exponent]
    cases power : number.exponent with
    | some exponent => rfl
    | none =>
      -- Without an exponent the digits decide: with a fraction it is a real number, else a whole
      -- one, which can be too long.
      have nothing : number.exponentText = [] := by simp [NumberLiteral.exponentText, power]
      simp only [nothing, Option.map_none, List.nil_append]
      split
      · split <;> rfl
      · rfl

end Numbers

section Tokens

/-- A text that spells tokens, with white space before, between and behind them. -/
inductive Spells : List Token → Text → Prop
  | nil {spaces : Text} (blank : ∀ c ∈ spaces, isSpace c = true) : Spells [] spaces
  | cons {spaces : Text} {token : Token} {rest : List Token} {text : Text}
      (blank : ∀ c ∈ spaces, isSpace c = true) (spelled : Spells rest text) :
      Spells (token :: rest) (spaces ++ (token.text ++ text))

/-- White space may stand in front. -/
theorem Spells.space {tokens : List Token} {text : Text} (spelled : Spells tokens text) {c : Char}
    (blank : isSpace c = true) : Spells tokens (c :: text) := by
  cases spelled with
  | nil spaces => exact .nil (List.forall_mem_cons.mpr ⟨blank, spaces⟩)
  | cons spaces spelled => exact .cons (List.forall_mem_cons.mpr ⟨blank, spaces⟩) spelled

/-- A token may stand right in front. -/
theorem Spells.token {tokens : List Token} {text : Text} (spelled : Spells tokens text)
    (token : Token) : Spells (token :: tokens) (token.text ++ text) := by
  rw [← List.nil_append (token.text ++ text)]
  exact .cons (by simp) spelled

/-- Nothing but white space is left when all tokens are read. -/
theorem Spells.skipSpace_nil {text : Text} (spelled : Spells [] text) : skipSpace text = [] := by
  cases spelled with
  | nil blank =>
    -- All that is left is white space, so all of it is dropped.
    have nothing := @List.dropWhile_append_of_pos _ _ _ [] blank
    rwa [List.append_nil] at nothing

/-- White space in front of a token is skipped, up to the token. -/
theorem Spells.skipSpace_cons {token : Token} {rest : List Token} {text : Text}
    (spelled : Spells (token :: rest) text) :
    ∃ after, skipSpace text = token.text ++ after ∧ Spells rest after ∧
      token.text.length + after.length ≤ text.length := by
  cases spelled with
  | @cons spaces _ _ after blank spelled =>
    refine ⟨after, ?_, spelled, by simp⟩
    obtain ⟨c, more, shape, ink, -⟩ := token.head_text
    -- A token starts with ink, so the white space ends in front of it.
    have other : isSpace c = false := by
      by_contra space
      rw [isBlank_of_isSpace (by simpa using space)] at ink
      cases ink
    rw [skipSpace, List.dropWhile_append_of_pos blank, shape, List.cons_append,
      List.dropWhile_cons_of_neg (by simp [other])]

/-- Whether a token may follow a value. -/
def Token.separates : Token → Bool
  | .closeList => true
  | .closeObject => true
  | .colon => true
  | .comma => true
  | _ => false

/-- A number ends where a token that may follow it comes next, or white space, or nothing. -/
theorem Spells.numberEnds {rest : List Token} {text : Text} (spelled : Spells rest text)
    (follows : rest.head?.all Token.separates = true) : NumberEnds text := by
  -- White space is none of the characters that a number goes on with.
  have space : ∀ c, isSpace c = true → c.isDigit = false ∧ c ≠ '.' ∧ c ≠ 'e' ∧ c ≠ 'E' := by
    intro c blank
    simp only [isSpace, Bool.or_eq_true, beq_iff_eq] at blank
    rcases blank with ((rfl | rfl) | rfl) | rfl <;> decide
  intro c more shape
  cases spelled with
  | nil blank => exact space c (blank c (by rw [shape]; simp))
  | @cons spaces token rest after blank spelled =>
    cases spaces with
    | cons first others =>
      obtain rfl := (List.cons.inj shape).1
      exact space first (blank first (by simp))
    | nil =>
      -- Right behind the number stands a token that may follow it, and four of them may.
      cases token with
      | closeList => obtain rfl := (List.cons.inj shape).1; decide
      | closeObject => obtain rfl := (List.cons.inj shape).1; decide
      | colon => obtain rfl := (List.cons.inj shape).1; decide
      | comma => obtain rfl := (List.cons.inj shape).1; decide
      | _ => cases follows

/-- What reading comes to: a value with the tokens that are left, and a shorter text; or a failure if
there is no value. -/
def Gives {α : Type} (result : Except Stop (α × Text)) (value : Option α) (rest : List Token)
    (size : Nat) : Prop :=
  match value with
  | some value => ∃ after, result = .ok (value, after) ∧ Spells rest after ∧ after.length < size
  | none => ∃ s, result = .error s

end Tokens

section Scalars

/-- A value that starts with neither quote nor bracket is a word or a number. -/
theorem readValue_other {fuel : Nat} {c : Char} {rest : Text} (noQuote : c ≠ '"') (noBrace : c ≠ '{')
    (noBracket : c ≠ '[') :
    readValue (fuel + 1) (c :: rest) = match readWord? (c :: rest) with
      | some found => .ok found
      | none => readNumber (c :: rest) := by
  -- The rules for strings, objects and lists come first, and none of them applies.
  unfold readValue
  split
  · contradiction
  · rename_i same
    exact absurd (List.cons.inj same).1 noQuote
  · rename_i same
    exact absurd (List.cons.inj same).1 noBrace
  · rename_i same
    exact absurd (List.cons.inj same).1 noBracket
  · rfl

/-- No word starts as a number does. -/
theorem readWord?_number (number : NumberLiteral) (after : Text) :
    readWord? (number.text ++ after) = none := by
  have digit := number.leadDigit
  -- Every word starts with a letter; behind a minus sign too, where the only word is that for
  -- infinity.
  have other : ∀ c : Char, c.isDigit = false → c ≠ number.lead :=
    fun c outside => (ne_of_isDigit digit outside).symm
  have shape : number.text ++ after = (if number.negative then ['-'] else []) ++
      (number.lead :: (number.others ++ (number.fractionText ++ (number.exponentText ++ after)))) := by
    simp [NumberLiteral.text, NumberLiteral.whole]
  rw [shape]
  cases number.negative
  · simp [readWord?, words, Text.after?, other]
  · simp [readWord?, words, Text.after?, other]

/-- A scalar is read as its value. -/
theorem readValue_scalar (scalar : Scalar) {fuel : Nat} {after : Text} (ends : NumberEnds after)
    (enough : scalar.text.length ≤ fuel) :
    match scalar.value? with
    | some value => readValue (fuel + 1) (scalar.text ++ after) = .ok (value, after)
    | none => ∃ s, readValue (fuel + 1) (scalar.text ++ after) = .error s := by
  cases scalar with
  | null => rfl
  | bool value =>
    cases value with
    | true => rfl
    | false => rfl
  | string parts =>
    -- The two quotes take the room that the reader of the body does not need.
    have size : (StringLiteral.text parts).length = (StringLiteral.body parts).length + 2 := by
      simp [StringLiteral.text]
    have room : (StringLiteral.body parts).length + 2 ≤ fuel := size ▸ enough
    have shape : (Scalar.string parts).text ++ after =
        '"' :: (StringLiteral.body parts ++ '"' :: after) := by
      simp [Scalar.text, StringLiteral.text]
    simp only [Scalar.value?]
    rw [shape, readValue, readString_body parts after (by omega)]
    rfl
  | number literal =>
    have read := readNumber_text literal ends
    obtain ⟨c, more, shape, start⟩ := literal.head_text
    -- A number starts with a digit or a minus sign.
    have other : ∀ d : Char, d.isDigit = false → d ≠ '-' → c ≠ d := by
      intro d outside noMinus
      rcases start with rfl | digit
      · exact noMinus.symm
      · exact ne_of_isDigit digit outside
    -- Neither quote nor bracket nor word comes first, so a number is read.
    have whole : readValue (fuel + 1) ((Scalar.number literal).text ++ after) =
        readNumber (literal.text ++ after) := by
      have none := readWord?_number literal after
      show readValue (fuel + 1) (literal.text ++ after) = _
      rw [shape, List.cons_append] at none ⊢
      rw [readValue_other (other _ (by decide) (by decide)) (other _ (by decide) (by decide))
        (other _ (by decide) (by decide)), none]
    rw [whole, read]
    simp only [Scalar.value?]
    cases literal.value? with
    | some value => rfl
    | none => exact ⟨_, rfl⟩

end Scalars

section Documents

theorem filter_surplusTokens (surplus : Bool) : (surplusTokens surplus).filter Token.plain = [] := by
  cases surplus <;> rfl

theorem Written.plainTokens_list (items : List Written) (surplus : Bool) :
    (Written.list items surplus).plainTokens =
      .openList :: ((itemTokens surplus items).filter Token.plain ++ [.closeList]) := by
  rw [Written.plainTokens, Written.tokens, List.filter_cons_of_pos (by rfl), List.filter_append]
  rfl

theorem Written.plainTokens_object (entries : List (StringLiteral × Written)) (surplus : Bool) :
    (Written.object entries surplus).plainTokens =
      .openObject :: ((entryTokens surplus entries).filter Token.plain ++ [.closeObject]) := by
  rw [Written.plainTokens, Written.tokens, List.filter_cons_of_pos (by rfl), List.filter_append]
  rfl

theorem plain_itemTokens_single (surplus : Bool) (item : Written) :
    (itemTokens surplus [item]).filter Token.plain = item.plainTokens := by
  rw [itemTokens, List.filter_append, filter_surplusTokens, List.append_nil]
  rfl

theorem plain_itemTokens_cons (surplus : Bool) (item next : Written) (more : List Written) :
    (itemTokens surplus (item :: next :: more)).filter Token.plain =
      item.plainTokens ++ .comma :: (itemTokens surplus (next :: more)).filter Token.plain := by
  rw [itemTokens, List.filter_append, List.filter_cons_of_pos (by rfl)]
  · rfl
  · simp

theorem plain_entryTokens_single (surplus : Bool) (name : StringLiteral) (value : Written) :
    (entryTokens surplus [(name, value)]).filter Token.plain =
      .scalar (.string name) :: .colon :: value.plainTokens := by
  rw [entryTokens, List.filter_cons_of_pos (by rfl), List.filter_cons_of_pos (by rfl),
    List.filter_append, filter_surplusTokens, List.append_nil]
  rfl

theorem plain_entryTokens_cons (surplus : Bool) (name : StringLiteral) (value : Written)
    (next : StringLiteral × Written) (more : List (StringLiteral × Written)) :
    (entryTokens surplus ((name, value) :: next :: more)).filter Token.plain =
      .scalar (.string name) :: .colon :: (value.plainTokens ++
        .comma :: (entryTokens surplus (next :: more)).filter Token.plain) := by
  rw [entryTokens, List.filter_cons_of_pos (by rfl), List.filter_cons_of_pos (by rfl),
    List.filter_append, List.filter_cons_of_pos (by rfl)]
  · rfl
  · simp

/-- A plain document starts with a token that does not close. -/
theorem Written.head_plainTokens (written : Written) :
    ∃ token rest, written.plainTokens = token :: rest ∧ token.closes = false := by
  cases written with
  | scalar value =>
    exact ⟨.scalar value, [], by rw [Written.plainTokens, Written.tokens]; rfl, rfl⟩
  | list items surplus => exact ⟨.openList, _, Written.plainTokens_list items surplus, rfl⟩
  | object entries surplus => exact ⟨.openObject, _, Written.plainTokens_object entries surplus, rfl⟩

/-- The items of a list that has some start with a token that does not close. -/
theorem head_plain_itemTokens (surplus : Bool) (item : Written) (others : List Written) :
    ∃ token rest, (itemTokens surplus (item :: others)).filter Token.plain = token :: rest ∧
      token.closes = false := by
  obtain ⟨token, rest, tokens, opens⟩ := item.head_plainTokens
  cases others with
  | nil => exact ⟨token, rest, by rw [plain_itemTokens_single, tokens], opens⟩
  | cons next more => exact ⟨token, _, by rw [plain_itemTokens_cons, tokens, List.cons_append], opens⟩

/-- The entries of an object that has some start with a name. -/
theorem head_plain_entryTokens (surplus : Bool) (entry : StringLiteral × Written)
    (others : List (StringLiteral × Written)) :
    ∃ token rest, (entryTokens surplus (entry :: others)).filter Token.plain = token :: rest ∧
      token.closes = false := by
  obtain ⟨name, value⟩ := entry
  cases others with
  | nil => exact ⟨_, _, plain_entryTokens_single surplus name value, rfl⟩
  | cons next more => exact ⟨_, _, plain_entryTokens_cons surplus name value next more, rfl⟩

/-- Where a token comes next that does not close, nothing closes. -/
theorem Spells.not_closed {tokens rest : List Token} {text : Text}
    (spelled : Spells (tokens ++ rest) text)
    (head : ∃ token more, tokens = token :: more ∧ token.closes = false) {c : Char}
    (closing : (c == '}' || c == ']') = true) (more : Text) : skipSpace text ≠ c :: more := by
  obtain ⟨token, others, rfl, opens⟩ := head
  obtain ⟨after, shape, -⟩ := spelled.skipSpace_cons
  obtain ⟨first, text, start, -, told⟩ := token.head_text
  -- The first character of the token is the one that white space leaves, and it closes nothing.
  rw [shape, start]
  intro same
  obtain rfl := (List.cons.inj same).1
  rw [opens, closing] at told
  cases told

/-- What is left is shorter than anything longer. -/
theorem Gives.mono {α : Type} {result : Except Stop (α × Text)} {value : Option α}
    {rest : List Token} {size size' : Nat} (gives : Gives result value rest size)
    (le : size ≤ size') : Gives result value rest size' := by
  cases value with
  | none => exact gives
  | some value =>
    obtain ⟨after, done, spelled, short⟩ := gives
    exact ⟨after, done, spelled, Nat.lt_of_lt_of_le short le⟩

/-- What is done to the value that reading gives. -/
theorem Gives.map {α β : Type} {result : Except Stop (α × Text)} {value : Option α}
    {rest : List Token} {size : Nat} (gives : Gives result value rest size) (f : α → β) :
    Gives (result >>= fun (value, rest) => pure (f value, rest)) (value.map f) rest size := by
  cases value with
  | none =>
    obtain ⟨s, rfl⟩ := gives
    exact ⟨s, rfl⟩
  | some value =>
    obtain ⟨after, rfl, spelled, short⟩ := gives
    exact ⟨after, rfl, spelled, short⟩

/-- A bracket that is not closed at once opens a list with items. -/
theorem readValue_list {fuel : Nat} {after : Text} (goes_on : ∀ more, skipSpace after ≠ ']' :: more) :
    readValue (fuel + 1) ('[' :: after) =
      readItems fuel (skipSpace after) >>= fun (items, rest) => pure (.list items, rest) := by
  rw [readValue]
  split
  · rename_i rest closed
    exact absurd closed (goes_on rest)
  · rfl

/-- A brace that is not closed at once opens an object with entries. -/
theorem readValue_object {fuel : Nat} {after : Text}
    (goes_on : ∀ more, skipSpace after ≠ '}' :: more) :
    readValue (fuel + 1) ('{' :: after) = readEntries fuel (skipSpace after) >>=
      fun (entries, rest) => pure (.mapping (Entries.ofList entries), rest) := by
  rw [readValue]
  split
  · rename_i rest closed
    exact absurd closed (goes_on rest)
  · rfl

/-- The last item of a list is followed by the end of the list. -/
theorem readItems_last {fuel size : Nat} {text : Text} {value : Option Document} {rest : List Token}
    (read : Gives (readValue fuel text) value (.closeList :: rest) size) :
    Gives (readItems (fuel + 1) text) (value.map fun item => [item]) rest size := by
  cases value with
  | none =>
    obtain ⟨s, failed⟩ := read
    exact ⟨s, by rw [readItems, failed]; rfl⟩
  | some item =>
    obtain ⟨after, done, spelled, short⟩ := read
    -- Behind the item comes the bracket.
    obtain ⟨left, shape, spelled, less⟩ := spelled.skipSpace_cons
    refine ⟨left, ?_, spelled, by omega⟩
    rw [readItems, done]
    simp only [Bind.bind, Except.bind, shape]
    rfl

/-- An item that is not the last is followed by a comma and the others. -/
theorem readItems_next {fuel size : Nat} {text : Text} {value : Option Document}
    {values : Option (List Document)} {tokens rest : List Token}
    (read : Gives (readValue fuel text) value (.comma :: tokens) size)
    (others : ∀ after, Spells tokens after → after.length < size →
      Gives (readItems fuel (skipSpace after)) values rest size) :
    Gives (readItems (fuel + 1) text) (value.bind fun item => values.map (item :: ·)) rest size := by
  cases value with
  | none =>
    obtain ⟨s, failed⟩ := read
    exact ⟨s, by rw [readItems, failed]; rfl⟩
  | some item =>
    obtain ⟨after, done, spelled, short⟩ := read
    -- Behind the item comes the comma, and the others are read from there.
    obtain ⟨left, shape, spelled, less⟩ := spelled.skipSpace_cons
    have step : readItems (fuel + 1) text = readItems fuel (skipSpace left) >>=
        fun (items, rest) => pure (item :: items, rest) := by
      rw [readItems, done]
      simp only [Bind.bind, Except.bind, shape]
      rfl
    rw [step]
    exact (others left spelled (by omega)).map (item :: ·)

/-- The name of an entry and its colon are read in front of the value. -/
theorem readEntries_name {fuel : Nat} {name : StringLiteral} {tokens : List Token} {text : Text}
    (spelled : Spells (.scalar (.string name) :: .colon :: tokens) text)
    (enough : text.length ≤ fuel) :
    ∃ after, Spells tokens after ∧ after.length < text.length ∧
      readEntries (fuel + 1) (skipSpace text) = (do
        let (value, rest) ← readValue fuel (skipSpace after)
        let entry := (Document.text (String.ofList (StringLiteral.value name)), value)
        match skipSpace rest with
        | '}' :: rest => return ([entry], rest)
        | ',' :: rest =>
          let (entries, rest) ← readEntries fuel (skipSpace rest)
          return (entry :: entries, rest)
        | rest => stop .comma rest) := by
  obtain ⟨behind, shape, spelled, size⟩ := spelled.skipSpace_cons
  obtain ⟨after, colon, spelled, size'⟩ := spelled.skipSpace_cons
  have width : (Token.text (.scalar (.string name))).length = (StringLiteral.body name).length + 2 := by
    simp [Token.text, Scalar.text, StringLiteral.text]
  -- The name is a string literal, so it is read as one; then comes the colon.
  have quoted : Token.text (.scalar (.string name)) ++ behind =
      '"' :: (StringLiteral.body name ++ '"' :: behind) := by
    simp [Token.text, Scalar.text, StringLiteral.text]
  refine ⟨after, spelled, by omega, ?_⟩
  rw [shape, quoted, readEntries, readString_body name behind (by omega)]
  simp only [Bind.bind, Except.bind, colon]
  rfl

/-- The name that an entry is found by. -/
def entryKey (name : StringLiteral) : Document := .text (String.ofList (StringLiteral.value name))

/-- The last entry of an object is followed by the end of the object. -/
theorem readEntries_last {fuel : Nat} {name : StringLiteral} {tokens rest : List Token} {text : Text}
    {value : Option Document} (spelled : Spells (.scalar (.string name) :: .colon :: tokens) text)
    (enough : text.length ≤ fuel)
    (read : ∀ after, Spells tokens after → after.length < text.length →
      Gives (readValue fuel (skipSpace after)) value (.closeObject :: rest) after.length) :
    Gives (readEntries (fuel + 1) (skipSpace text)) (value.map fun value => [(entryKey name, value)])
      rest text.length := by
  obtain ⟨after, spelled, short, step⟩ := readEntries_name spelled enough
  have read := read after spelled short
  cases value with
  | none =>
    obtain ⟨s, failed⟩ := read
    exact ⟨s, by rw [step, failed]; rfl⟩
  | some value =>
    obtain ⟨behind, done, spelled, short'⟩ := read
    -- Behind the value comes the brace.
    obtain ⟨left, shape, spelled, less⟩ := spelled.skipSpace_cons
    refine ⟨left, ?_, spelled, by omega⟩
    rw [step, done]
    simp only [Bind.bind, Except.bind, shape]
    rfl

/-- An entry that is not the last is followed by a comma and the others. -/
theorem readEntries_next {fuel : Nat} {name : StringLiteral} {tokens others rest : List Token}
    {text : Text} {value : Option Document} {values : Option (List (Document × Document))}
    (spelled : Spells (.scalar (.string name) :: .colon :: tokens) text)
    (enough : text.length ≤ fuel)
    (read : ∀ after, Spells tokens after → after.length < text.length →
      Gives (readValue fuel (skipSpace after)) value (.comma :: others) after.length)
    (further : ∀ after, Spells others after → after.length < text.length →
      Gives (readEntries fuel (skipSpace after)) values rest text.length) :
    Gives (readEntries (fuel + 1) (skipSpace text))
      (value.bind fun value => values.map ((entryKey name, value) :: ·)) rest text.length := by
  obtain ⟨after, spelled, short, step⟩ := readEntries_name spelled enough
  have read := read after spelled short
  cases value with
  | none =>
    obtain ⟨s, failed⟩ := read
    exact ⟨s, by rw [step, failed]; rfl⟩
  | some value =>
    obtain ⟨behind, done, spelled, short'⟩ := read
    obtain ⟨left, shape, spelled, less⟩ := spelled.skipSpace_cons
    -- Behind the value comes the comma, and the others are read from there.
    have step' : readEntries (fuel + 1) (skipSpace text) = readEntries fuel (skipSpace left) >>=
        fun (entries, rest) => pure ((entryKey name, value) :: entries, rest) := by
      rw [step, done]
      simp only [Bind.bind, Except.bind, shape]
      rfl
    rw [step']
    exact (further left spelled (by omega)).map ((entryKey name, value) :: ·)

theorem itemValues?_cons (item : Written) (rest : List Written) :
    itemValues? (item :: rest) = item.value?.bind fun value => (itemValues? rest).map (value :: ·) := by
  rw [itemValues?]
  cases item.value? with
  | none => rfl
  | some value => cases itemValues? rest <;> rfl

theorem entryValues?_cons (name : StringLiteral) (value : Written)
    (rest : List (StringLiteral × Written)) :
    entryValues? ((name, value) :: rest) =
      value.value?.bind fun value => (entryValues? rest).map ((entryKey name, value) :: ·) := by
  rw [entryValues?]
  cases value.value? with
  | none => rfl
  | some value => cases entryValues? rest <;> rfl

theorem itemValues?_single (item : Written) :
    itemValues? [item] = item.value?.map fun value => [value] := by
  rw [itemValues?_cons, itemValues?]
  cases item.value? <;> rfl

theorem entryValues?_single (name : StringLiteral) (value : Written) :
    entryValues? [(name, value)] = value.value?.map fun value => [(entryKey name, value)] := by
  rw [entryValues?_cons, entryValues?]
  cases value.value? <;> rfl

mutual

/-- A document is read as its value, and what follows it is left. -/
theorem readValue_written : ∀ (written : Written) {fuel : Nat} {rest : List Token} {text : Text},
    rest.head?.all Token.separates = true → Spells (written.plainTokens ++ rest) text →
    2 * text.length ≤ fuel → Gives (readValue fuel (skipSpace text)) written.value? rest text.length
  -- By induction on the document. A value needs twice its length as fuel, for an item takes a step
  -- of its own besides the step of its value.
  | .scalar scalar, fuel, rest, text, follows, spelled, enough => by
    have tokens : (Written.scalar scalar).plainTokens = [.scalar scalar] := by
      rw [Written.plainTokens, Written.tokens]
      rfl
    rw [tokens] at spelled
    obtain ⟨after, shape, left, size⟩ := spelled.skipSpace_cons
    obtain ⟨c, more, first, -⟩ := (Token.scalar scalar).head_text
    have wide : 0 < (Token.scalar scalar).text.length := by simp [first]
    obtain ⟨fuel, rfl⟩ := Nat.exists_eq_succ_of_ne_zero (show fuel ≠ 0 by omega)
    have read := readValue_scalar scalar (left.numberEnds follows)
      (show (Token.scalar scalar).text.length ≤ fuel by omega)
    rw [shape, Written.value?]
    cases value : scalar.value? with
    | none =>
      rw [value] at read
      exact read
    | some result =>
      rw [value] at read
      exact ⟨after, read, left, by omega⟩
  -- An empty list has no surplus comma, so its bracket closes at once.
  | .list [] surplus, fuel, rest, text, follows, spelled, enough => by
    rw [Written.plainTokens_list] at spelled
    obtain ⟨after, shape, spelled, size⟩ := spelled.skipSpace_cons
    have width : (Token.text .openList).length = 1 := rfl
    obtain ⟨fuel, rfl⟩ := Nat.exists_eq_succ_of_ne_zero (show fuel ≠ 0 by omega)
    rw [itemTokens] at spelled
    obtain ⟨left, closed, spelled, size'⟩ := spelled.skipSpace_cons
    refine ⟨left, ?_, spelled, by omega⟩
    rw [shape]
    show readValue (fuel + 1) ('[' :: after) = _
    rw [readValue, closed]
    rfl
  | .list (item :: others) surplus, fuel, rest, text, follows, spelled, enough => by
    rw [Written.plainTokens_list, List.cons_append, List.append_assoc] at spelled
    obtain ⟨after, shape, spelled, size⟩ := spelled.skipSpace_cons
    have width : (Token.text .openList).length = 1 := rfl
    obtain ⟨fuel, rfl⟩ := Nat.exists_eq_succ_of_ne_zero (show fuel ≠ 0 by omega)
    -- The first item comes before the bracket closes.
    have goes_on := spelled.not_closed (head_plain_itemTokens surplus item others) (c := ']') rfl
    rw [shape, Written.value?]
    show Gives (readValue (fuel + 1) ('[' :: after)) _ rest _
    rw [readValue_list goes_on]
    have read := readItems_written surplus (item :: others) (by simp) spelled
      (show 2 * after.length < fuel by omega)
    have read := read.mono (show after.length ≤ text.length by omega)
    exact read.map Document.list
  | .object [] surplus, fuel, rest, text, follows, spelled, enough => by
    rw [Written.plainTokens_object] at spelled
    obtain ⟨after, shape, spelled, size⟩ := spelled.skipSpace_cons
    have width : (Token.text .openObject).length = 1 := rfl
    obtain ⟨fuel, rfl⟩ := Nat.exists_eq_succ_of_ne_zero (show fuel ≠ 0 by omega)
    rw [entryTokens] at spelled
    obtain ⟨left, closed, spelled, size'⟩ := spelled.skipSpace_cons
    refine ⟨left, ?_, spelled, by omega⟩
    rw [shape]
    show readValue (fuel + 1) ('{' :: after) = _
    rw [readValue, closed]
    rfl
  | .object (entry :: others) surplus, fuel, rest, text, follows, spelled, enough => by
    rw [Written.plainTokens_object, List.cons_append, List.append_assoc] at spelled
    obtain ⟨after, shape, spelled, size⟩ := spelled.skipSpace_cons
    have width : (Token.text .openObject).length = 1 := rfl
    obtain ⟨fuel, rfl⟩ := Nat.exists_eq_succ_of_ne_zero (show fuel ≠ 0 by omega)
    -- The first name comes before the brace closes.
    have goes_on := spelled.not_closed (head_plain_entryTokens surplus entry others) (c := '}') rfl
    rw [shape, Written.value?]
    show Gives (readValue (fuel + 1) ('{' :: after)) _ rest _
    rw [readValue_object goes_on]
    have read := readEntries_written surplus (entry :: others) (by simp) spelled
      (show 2 * after.length < fuel by omega)
    have read := read.mono (show after.length ≤ text.length by omega)
    exact read.map fun entries => Document.mapping (Entries.ofList entries)

/-- The items of a list are read up to its end. -/
theorem readItems_written (surplus : Bool) : ∀ (items : List Written) {fuel : Nat}
    {rest : List Token} {text : Text}, items ≠ [] →
    Spells ((itemTokens surplus items).filter Token.plain ++ .closeList :: rest) text →
    2 * text.length < fuel →
    Gives (readItems fuel (skipSpace text)) (itemValues? items) rest text.length
  | [], fuel, rest, text, some_item, spelled, enough => absurd rfl some_item
  | [item], fuel, rest, text, some_item, spelled, enough => by
    rw [plain_itemTokens_single] at spelled
    obtain ⟨fuel, rfl⟩ := Nat.exists_eq_succ_of_ne_zero (Nat.ne_zero_of_lt enough)
    rw [itemValues?_single]
    exact readItems_last (readValue_written item rfl spelled (by omega))
  | item :: next :: more, fuel, rest, text, some_item, spelled, enough => by
    rw [plain_itemTokens_cons, List.append_assoc, List.cons_append] at spelled
    obtain ⟨fuel, rfl⟩ := Nat.exists_eq_succ_of_ne_zero (Nat.ne_zero_of_lt enough)
    rw [itemValues?_cons]
    refine readItems_next (readValue_written item rfl spelled (by omega)) ?_
    intro after spelled short
    have read := readItems_written surplus (next :: more) (by simp) spelled
      (show 2 * after.length < fuel by omega)
    exact read.mono (Nat.le_of_lt short)

/-- The entries of an object are read up to its end. -/
theorem readEntries_written (surplus : Bool) : ∀ (entries : List (StringLiteral × Written))
    {fuel : Nat} {rest : List Token} {text : Text}, entries ≠ [] →
    Spells ((entryTokens surplus entries).filter Token.plain ++ .closeObject :: rest) text →
    2 * text.length < fuel →
    Gives (readEntries fuel (skipSpace text)) (entryValues? entries) rest text.length
  | [], fuel, rest, text, some_entry, spelled, enough => absurd rfl some_entry
  | [(name, value)], fuel, rest, text, some_entry, spelled, enough => by
    rw [plain_entryTokens_single] at spelled
    obtain ⟨fuel, rfl⟩ := Nat.exists_eq_succ_of_ne_zero (Nat.ne_zero_of_lt enough)
    rw [entryValues?_single]
    refine readEntries_last spelled (by omega) ?_
    intro after spelled short
    exact readValue_written value rfl spelled (by omega)
  | (name, value) :: next :: more, fuel, rest, text, some_entry, spelled, enough => by
    rw [plain_entryTokens_cons, List.cons_append, List.cons_append, List.append_assoc,
      List.cons_append] at spelled
    obtain ⟨fuel, rfl⟩ := Nat.exists_eq_succ_of_ne_zero (Nat.ne_zero_of_lt enough)
    rw [entryValues?_cons]
    refine readEntries_next spelled (by omega)
      (fun after spelled short => readValue_written value rfl spelled (by omega)) ?_
    intro after spelled short
    have read := readEntries_written surplus (next :: more) (by simp) spelled
      (show 2 * after.length < fuel by omega)
    exact read.mono (Nat.le_of_lt short)

end

/-- No token starts with a byte order mark. -/
theorem Token.unmarked (token : Token) : token.text.head? ≠ some (Char.ofNat 0xFEFF) := by
  cases token with
  | scalar value =>
    cases value with
    | bool value => cases value <;> decide
    | string parts => simp [Token.text, Scalar.text, StringLiteral.text]
    | null => decide
    | number literal =>
      -- A number starts with a digit or a minus sign, and the mark is neither.
      obtain ⟨c, rest, shape, lead⟩ := literal.head_text
      rw [Token.text, Scalar.text, shape, List.head?_cons]
      rintro same
      obtain rfl := Option.some.inj same
      revert lead
      decide
  | _ => decide

/-- No text that spells some token starts with a byte order mark. -/
theorem Spells.unmarked {token : Token} {rest : List Token} {text : Text}
    (spelled : Spells (token :: rest) text) : text.head? ≠ some (Char.ofNat 0xFEFF) := by
  cases spelled with
  | @cons spaces _ _ after blank spelled =>
    cases spaces with
    | nil =>
      obtain ⟨c, more, shape, -⟩ := token.head_text
      have unmarked := token.unmarked
      rw [shape] at unmarked
      simpa [shape] using unmarked
    | cons c more =>
      -- The mark is no white space of the format either.
      have space := blank c List.mem_cons_self
      intro same
      obtain rfl : c = Char.ofNat 0xFEFF := Option.some.inj same
      revert space
      decide

/-- Reading a text that spells a document gives the value of the document. -/
theorem read_spelled {written : Written} {text : Text} (spelled : Spells written.plainTokens text) :
    (read text).toOption = written.value? := by
  obtain ⟨token, others, tokens, -⟩ := written.head_plainTokens
  have unmarked : (text.head? == some (Char.ofNat 0xFEFF)) = false := by
    rw [tokens] at spelled
    simpa using spelled.unmarked
  -- Nothing follows the document but white space.
  have whole : Spells (written.plainTokens ++ []) text := by rwa [List.append_nil]
  have gives := readValue_written written rfl whole
    (show 2 * text.length ≤ 2 * text.length + 2 by omega)
  rw [read, unmarked]
  cases value : written.value? with
  | none =>
    rw [value] at gives
    obtain ⟨s, failed⟩ := gives
    simp [failed, Except.toOption]
  | some value =>
    rw [value] at gives
    obtain ⟨after, done, left, -⟩ := gives
    simp [done, left.skipSpace_nil, Except.toOption]

end Documents

section Pieces

/-- Pieces that are plain spell their tokens. -/
theorem spells_render {pieces : List Piece} (plain : ∀ piece ∈ pieces, piece.plain = true) :
    Spells (pieces.filterMap Piece.token?) (render pieces) := by
  induction pieces with
  | nil => exact .nil (fun _ member => nomatch member)
  | cons piece rest ih =>
    have later := ih fun piece member => plain piece (List.mem_cons_of_mem _ member)
    have here := plain piece List.mem_cons_self
    -- A comment is not plain, so only tokens and white space are left.
    cases piece with
    | token mark => exact later.token mark
    | space c blank => exact later.space blank
    | lineComment content oneLine => cases here
    | blockComment content unclosed => cases here

/-- The tokens of the plain pieces are the plain tokens. -/
theorem tokens_filter_plain (pieces : List Piece) :
    (pieces.filter Piece.plain).filterMap Piece.token? =
      (pieces.filterMap Piece.token?).filter Token.plain := by
  induction pieces with
  | nil => rfl
  | cons piece rest ih =>
    cases piece with
    | token mark =>
      cases plain : mark.plain <;> simp [Piece.plain, Piece.token?, plain, ih]
    | _ => exact ih

/-- Tokens that stand side by side are spelled by their texts. -/
theorem spells_flatMap (tokens : List Token) : Spells tokens (tokens.flatMap Token.text) := by
  induction tokens with
  | nil => exact .nil (fun _ member => nomatch member)
  | cons token rest ih => exact ih.token token

end Pieces

/-- Stripping a dressed document is exact: it deletes the comments and the surplus commas and leaves
all else as it is written, so what is left has the value of the plain document; and where there is
nothing to delete, nothing changes. -/
theorem strip_dressed {written : Written} (dressed : Dressed written) :
    strip dressed.text = render (dressed.pieces.filter Piece.plain) ∧
      (read (strip dressed.text)).toOption = written.value? ∧
      (read written.plain).toOption = written.value? ∧
      (dressed.pieces.all Piece.plain = true → strip dressed.text = dressed.text) := by
  have exact := strip_eq_render dressed
  refine ⟨exact, ?_, ?_, ?_⟩
  · rw [exact]
    apply read_spelled
    rw [Written.plainTokens, ← dressed.exactly, ← tokens_filter_plain]
    exact spells_render fun piece member => (List.mem_filter.mp member).2
  · exact read_spelled (spells_flatMap written.plainTokens)
  · intro plain
    rw [exact, List.filter_eq_self.mpr (List.all_eq_true.mp plain), Dressed.text]

/-- A string literal that looks like a comment and the end of a list. -/
def marks : StringLiteral :=
  [.plain '/' (by decide) (by decide) (by decide), .plain '/' (by decide) (by decide) (by decide),
    .short ('"', '"') (by decide), .plain ',' (by decide) (by decide) (by decide),
    .plain ']' (by decide) (by decide) (by decide)]

/-- A list of two items with a surplus comma. -/
def pair : Written := .list [.scalar (.string marks), .scalar .null] true

/-- The list with comments in it, one of them between the surplus comma and the end. -/
def commented : Dressed pair where
  pieces := [.token .openList, .token (.scalar (.string marks)),
    .blockComment [',', ']', '"', '*'] (by decide), .token .comma,
    .lineComment ['"', '/', '*'] (by simp [isBreakChar]), .space '\n' rfl, .token (.scalar .null),
    .token .surplus, .blockComment [] (by decide), .space ' ' rfl, .token .closeList,
    .lineComment [',', ']'] (by simp [isBreakChar])]
  exactly := by
    rw [pair, Written.tokens, itemTokens, itemTokens, Written.tokens, Written.tokens]
    · rfl
    · simp
  linesEnd := by
    simp [LinesEnd, Piece.isBreak, isBreakChar]

/-- The list with a space and nothing to delete. -/
def spaced : Dressed (.list [.scalar (.string marks)] false) where
  pieces := [.token .openList, .space ' ' rfl, .token (.scalar (.string marks)), .token .closeList]
  exactly := by
    rw [Written.tokens, itemTokens, Written.tokens]
    rfl
  linesEnd := trivial

theorem strip_dressed_marks :
    strip commented.text = "[\"//\\\",]\",\nnull ]".toList ∧
      (read (strip commented.text)).toOption = some (.list [.text "//\",]", .null]) ∧
      strip spaced.text = spaced.text := by
  have exact := strip_dressed commented
  exact ⟨exact.1.trans rfl, exact.2.1.trans rfl, (strip_dressed spaced).2.2.2 rfl⟩

end ImportOrder.Json
