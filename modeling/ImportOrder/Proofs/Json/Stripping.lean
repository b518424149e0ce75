import ImportOrder.Proofs.Json.Written

/-! Stripping a dressed document: comments and surplus commas go, and every other piece stays as it
is written. -/

namespace ImportOrder.Json

section Literals

/-- A character that is neither quote nor backslash does not end a string literal. -/
theorem splitString_pass {c : Char} (unquoted : c ≠ '"') (unescaped : c ≠ '\\') (rest : Text) :
    splitString (c :: rest) = (c :: (splitString rest).1, (splitString rest).2) := by
  rw [splitString]
  · exact unquoted
  · exact fun same _ => unescaped same
  · exact fun _ _ same _ => unescaped same

/-- The character behind a backslash does not end a string literal, even if it is a quote. -/
theorem splitString_escape (c : Char) (rest : Text) :
    splitString ('\\' :: c :: rest) =
      ('\\' :: c :: (splitString rest).1, (splitString rest).2) := by
  rw [splitString]

/-- A hexadecimal digit is neither quote, backslash, slash nor comma. -/
theorem HexDigit.ne {c : Char} (other : hexValue? c = none) (digit : HexDigit) : digit.char ≠ c := by
  rintro rfl
  rw [digit.means] at other
  cases other

/-- A part of a string literal is passed over. -/
theorem splitString_part (part : StringPart) (rest : Text) :
    splitString (part.text ++ rest) = (part.text ++ (splitString rest).1, (splitString rest).2) := by
  cases part with
  | plain c unquoted unescaped _ => exact splitString_pass unquoted unescaped rest
  | short escape _ => exact splitString_escape escape.1 rest
  | numbered code =>
    have pass : ∀ (digit : HexDigit) (rest : Text), splitString (digit.char :: rest) =
        (digit.char :: (splitString rest).1, (splitString rest).2) := fun digit rest =>
      splitString_pass (digit.ne (by decide)) (digit.ne (by decide)) rest
    -- The escape covers its letter, and the four digits follow one by one.
    show splitString ('\\' :: 'u' :: code.first.char :: code.second.char :: code.third.char ::
      code.fourth.char :: rest) = _
    rw [splitString_escape, pass, pass, pass, pass]
    rfl

/-- A string literal is split right behind its closing quote. -/
theorem splitString_body (parts : StringLiteral) (behind : Text) :
    splitString (parts.body ++ '"' :: behind) = (parts.body ++ ['"'], behind) := by
  -- The induction is on the parts, not on the characters: a part is passed over as a whole, so the
  -- quote of an escape is never taken for the end.
  induction parts with
  | nil => rfl
  | cons part rest ih =>
    simp only [StringLiteral.body, List.flatMap_cons, List.append_assoc] at ih ⊢
    rw [splitString_part, ih]

/-- Neither a quote nor the start of a comment. -/
def Inert (c : Char) : Prop := c ≠ '"' ∧ c ≠ '/'

instance (c : Char) : Decidable (Inert c) := inferInstanceAs (Decidable (_ ∧ _))

/-- The numbers of the digits. -/
theorem toNat_of_isDigit {c : Char} (digit : c.isDigit = true) : 48 ≤ c.toNat ∧ c.toNat ≤ 57 := by
  simp only [Char.isDigit, Bool.and_eq_true, decide_eq_true_eq, UInt32.le_iff_toNat_le] at digit
  exact digit

/-- A digit is no character with a smaller or greater number. -/
theorem ne_of_isDigit {c other : Char} (digit : c.isDigit = true)
    (outside : other.isDigit = false) : c ≠ other := by
  rintro rfl
  rw [digit] at outside
  cases outside

/-- A digit is inert and no comma. -/
theorem inert_of_isDigit {c : Char} (digit : c.isDigit = true) : Inert c ∧ c ≠ ',' :=
  ⟨⟨ne_of_isDigit digit (by decide), ne_of_isDigit digit (by decide)⟩,
    ne_of_isDigit digit (by decide)⟩

/-- A number holds inert characters only, and no comma. -/
theorem inert_of_mem_number (number : NumberLiteral) {c : Char} (member : c ∈ number.text) :
    Inert c ∧ c ≠ ',' := by
  simp only [NumberLiteral.text, NumberLiteral.whole, List.mem_append] at member
  -- One case for each piece of a number: its sign, its digits, its fraction and its exponent.
  rcases member with sign | whole | fraction | exponent
  · split at sign
    · rw [List.mem_singleton.mp sign]
      decide
    · simp at sign
  · rcases List.mem_cons.mp whole with rfl | other
    · exact inert_of_isDigit number.leadDigit
    · exact inert_of_isDigit (number.othersDigits c other)
  · rw [NumberLiteral.fractionText] at fraction
    split at fraction
    · simp at fraction
    · rcases List.mem_cons.mp fraction with rfl | digit
      · decide
      · exact inert_of_isDigit (number.fractionDigits c digit)
  · rw [NumberLiteral.exponentText] at exponent
    split at exponent
    · simp at exponent
    · rename_i power _
      simp only [Exponent.text, List.cons_append, List.mem_cons, List.mem_append] at exponent
      rcases exponent with rfl | sign | digit
      · rcases power.isLetter with letter | letter <;> rw [letter] <;> decide
      · rw [Exponent.signText] at sign
        split at sign
        · simp at sign
        · rw [List.mem_singleton.mp sign]
          decide
        · rw [List.mem_singleton.mp sign]
          decide
      · exact inert_of_isDigit (power.allDigits c digit)

/-- A token is a string literal, a comma, or made of inert characters other than commas. -/
theorem Token.text_cases (token : Token) :
    (∃ parts : StringLiteral, token.text = parts.text) ∨ token = .comma ∨ token = .surplus ∨
      ∀ c ∈ token.text, Inert c ∧ c ≠ ',' := by
  -- Quotes matter in string literals only, and commas are tokens by themselves. Everything else can
  -- be passed over character by character.
  cases token with
  | comma => exact .inr (.inl rfl)
  | surplus => exact .inr (.inr (.inl rfl))
  | scalar value =>
    cases value with
    | string parts => exact .inl ⟨parts, rfl⟩
    | number literal => exact .inr (.inr (.inr fun c => inert_of_mem_number literal))
    | null =>
      have listed : "null".toList.all fun c => decide (Inert c ∧ c ≠ ',') := by decide
      exact .inr (.inr (.inr fun c member =>
        of_decide_eq_true (List.all_eq_true.mp listed c member)))
    | bool value =>
      have listed : ("true".toList ++ "false".toList).all fun c => decide (Inert c ∧ c ≠ ',') := by
        decide
      refine .inr (.inr (.inr fun c member =>
        of_decide_eq_true (List.all_eq_true.mp listed c (List.mem_append.mpr ?_))))
      cases value with
      | true => exact .inl member
      | false => exact .inr member
  | _ =>
    refine .inr (.inr (.inr fun c member => ?_))
    rw [List.mem_singleton.mp member]
    decide

end Literals

section Comments

/-- An inert character is kept. -/
theorem dropComments_inert {c : Char} (inert : Inert c) (rest : Text) :
    dropComments (c :: rest) = c :: dropComments rest := by
  rw [dropComments]
  · exact inert.1
  · exact fun _ same _ => inert.2 same
  · exact fun _ same _ => inert.2 same

/-- A text of inert characters is kept. -/
theorem dropComments_inerts {text : Text} (inert : ∀ c ∈ text, Inert c) (rest : Text) :
    dropComments (text ++ rest) = text ++ dropComments rest := by
  induction text with
  | nil => rfl
  | cons c text ih =>
    rw [List.cons_append, dropComments_inert (inert c (by simp)),
      ih fun other member => inert other (by simp [member])]
    rfl

/-- A string literal is kept, whatever stands in it. -/
theorem dropComments_string (parts : StringLiteral) (rest : Text) :
    dropComments (parts.text ++ rest) = parts.text ++ dropComments rest := by
  -- The opening quote hands the literal over to the splitter, so slashes in it are not looked at.
  have shape : parts.text ++ rest = '"' :: (parts.body ++ '"' :: rest) := by
    simp [StringLiteral.text]
  rw [shape, dropComments, splitString_body]
  simp [StringLiteral.text]

/-- A token is kept. -/
theorem dropComments_token (token : Token) (rest : Text) :
    dropComments (token.text ++ rest) = token.text ++ dropComments rest := by
  rcases token.text_cases with ⟨parts, text⟩ | rfl | rfl | inert
  · rw [text]
    exact dropComments_string parts rest
  · exact dropComments_inert (by decide) rest
  · exact dropComments_inert (by decide) rest
  · exact dropComments_inerts (fun c member => (inert c member).1) rest

/-- A line comment is dropped up to what ends it. -/
theorem skipLine_content {content : Text} (oneLine : ∀ c ∈ content, isBreakChar c = false)
    {rest : Text} (ended : rest.head?.all isBreakChar = true) : skipLine (content ++ rest) = rest := by
  have passed : ∀ c ∈ content, (c != '\r' && c != '\n') = true := by
    intro c member
    have := oneLine c member
    simp only [isBreakChar, Bool.or_eq_false_iff] at this
    simp [bne, this]
  rw [skipLine, List.dropWhile_append_of_pos passed]
  cases rest with
  | nil => rfl
  | cons c rest =>
    -- The line break stops the search, and is left where it is.
    have isBreak : c = '\n' ∨ c = '\r' := by simpa [isBreakChar] using ended
    rcases isBreak with rfl | rfl <;> rfl

/-- A block comment is dropped with the mark that closes it. -/
theorem skipBlock_content {content : Text} (unclosed : ¬['*', '/'] <:+: content) (rest : Text) :
    skipBlock (content ++ '*' :: '/' :: rest) = rest := by
  -- The induction is on the content. It keeps that no mark closes the comment in what is left.
  induction content with
  | nil => rfl
  | cons c content ih =>
    have later : ¬['*', '/'] <:+: content := fun inside => unclosed (inside.trans (List.infix_cons List.infix_rfl))
    rw [List.cons_append, skipBlock, ih later]
    -- A star and a slash at the front would close the comment too early.
    intro behind star slash
    subst star
    cases content with
    | nil => simp at slash
    | cons d content =>
      obtain rfl : d = '/' := by simpa using (List.cons.inj slash).1
      exact unclosed ⟨[], content, rfl⟩

/-- White space is inert. -/
theorem inert_of_isSpace {c : Char} (blank : isSpace c = true) : Inert c := by
  constructor <;> rintro rfl <;> exact absurd blank (by decide)

/-- What a text with comments starts with, if a line break or nothing comes first. -/
theorem render_head_isBreak {pieces : List Piece}
    (ended : pieces.head?.all Piece.isBreak = true) :
    (render pieces).head?.all isBreakChar = true := by
  -- A line break is a piece of a single character, so the piece in front decides.
  cases pieces with
  | nil => rfl
  | cons piece rest =>
    cases piece with
    | space c blank =>
      have isBreak : isBreakChar c = true := ended
      simpa [render, Piece.text] using isBreak
    | _ => simp [Piece.isBreak] at ended

/-- Dropping comments drops exactly the pieces that are comments. -/
theorem dropComments_render {pieces : List Piece} (ends : LinesEnd pieces) :
    dropComments (render pieces) = render (pieces.filter fun piece => !piece.isComment) := by
  -- The induction is on the pieces: a piece that is no comment is kept as it is written, and a
  -- comment ends where the next piece begins.
  induction pieces with
  | nil =>
    show dropComments [] = []
    rw [dropComments]
  | cons piece rest ih =>
    simp only [render, List.flatMap_cons] at ih ⊢
    cases piece with
    | token mark =>
      rw [List.filter_cons_of_pos (by rfl), List.flatMap_cons, ← ih ends]
      exact dropComments_token mark _
    | space c blank =>
      rw [List.filter_cons_of_pos (by rfl), List.flatMap_cons, ← ih ends]
      exact dropComments_inert (inert_of_isSpace blank) _
    | lineComment content oneLine =>
      -- The line break that ends the comment is a piece of its own, and stays.
      obtain ⟨ended, ends⟩ := ends
      rw [List.filter_cons_of_neg (by simp [Piece.isComment]), ← ih ends]
      show dropComments ('/' :: '/' :: (content ++ render rest)) = _
      rw [dropComments, skipLine_content oneLine (render_head_isBreak ended)]
      rfl
    | blockComment content unclosed =>
      rw [List.filter_cons_of_neg (by simp [Piece.isComment]), ← ih ends]
      have shape : Piece.text (.blockComment content unclosed) ++ render rest =
          '/' :: '*' :: (content ++ '*' :: '/' :: render rest) := by
        simp [Piece.text]
      show dropComments (Piece.text (.blockComment content unclosed) ++ render rest) = _
      rw [shape, dropComments, skipBlock_content unclosed]
      rfl

end Comments

section Commas

/-- A character that is neither quote nor comma is kept. -/
theorem dropCommas_pass {c : Char} (unquoted : c ≠ '"') (other : c ≠ ',') (rest : Text) :
    dropCommas (c :: rest) = c :: dropCommas rest := by
  rw [dropCommas]
  · exact unquoted
  · exact other

/-- A text without quotes and commas is kept. -/
theorem dropCommas_inerts {text : Text} (inert : ∀ c ∈ text, Inert c ∧ c ≠ ',') (rest : Text) :
    dropCommas (text ++ rest) = text ++ dropCommas rest := by
  induction text with
  | nil => rfl
  | cons c text ih =>
    obtain ⟨inertHead, noComma⟩ := inert c (by simp)
    rw [List.cons_append, dropCommas_pass inertHead.1 noComma,
      ih fun other member => inert other (by simp [member])]
    rfl

/-- A string literal is kept, whatever stands in it. -/
theorem dropCommas_string (parts : StringLiteral) (rest : Text) :
    dropCommas (parts.text ++ rest) = parts.text ++ dropCommas rest := by
  have shape : parts.text ++ rest = '"' :: (parts.body ++ '"' :: rest) := by
    simp [StringLiteral.text]
  rw [shape, dropCommas, splitString_body]
  simp [StringLiteral.text]

/-- In a sequence of tokens, surplus commas stand in front of what closes, and no other commas do. -/
def CommasTold : List Token → Prop
  | [] => True
  -- White space does not count, so the next token is what the search for a closing bracket finds.
  | .comma :: rest => rest.head?.any Token.closes = false ∧ CommasTold rest
  | .surplus :: rest => rest.head?.any Token.closes = true ∧ CommasTold rest
  | _ :: rest => CommasTold rest

/-- A token that is no comma is kept. -/
theorem dropCommas_token {token : Token} (between : token ≠ .comma) (behind : token ≠ .surplus)
    (rest : Text) : dropCommas (token.text ++ rest) = token.text ++ dropCommas rest := by
  rcases token.text_cases with ⟨parts, text⟩ | comma | surplus | inert
  · rw [text]
    exact dropCommas_string parts rest
  · exact absurd comma between
  · exact absurd surplus behind
  · exact dropCommas_inerts inert rest

/-- A token that is no comma tells nothing about commas. -/
theorem commasTold_cons {token : Token} (between : token ≠ .comma) (behind : token ≠ .surplus)
    (rest : List Token) : CommasTold (token :: rest) ↔ CommasTold rest := by
  -- For these tokens both sides are the same by definition.
  cases token with
  | comma => exact absurd rfl between
  | surplus => exact absurd rfl behind
  | _ => rfl

/-- A number starts with its minus or with a digit. -/
theorem NumberLiteral.head_text (number : NumberLiteral) :
    ∃ c rest, number.text = c :: rest ∧ (c = '-' ∨ c.isDigit = true) := by
  by_cases negative : number.negative = true
  · refine ⟨'-', number.whole ++ (number.fractionText ++ number.exponentText), ?_, .inl rfl⟩
    simp [NumberLiteral.text, negative]
  · refine ⟨number.lead, number.others ++ (number.fractionText ++ number.exponentText), ?_,
      .inr number.leadDigit⟩
    simp [NumberLiteral.text, NumberLiteral.whole, negative]

/-- A token starts with a character that is not blank, and with a closing bracket if it closes. -/
theorem Token.head_text (token : Token) :
    ∃ c rest, token.text = c :: rest ∧ isBlank c = false ∧
      (c == '}' || c == ']') = token.closes := by
  cases token with
  | scalar value =>
    cases value with
    | null => exact ⟨'n', "ull".toList, rfl, by decide, rfl⟩
    | bool value =>
      cases value with
      | true => exact ⟨'t', "rue".toList, rfl, by decide, rfl⟩
      | false => exact ⟨'f', "alse".toList, rfl, by decide, rfl⟩
    | string parts => exact ⟨'"', _, rfl, by decide, rfl⟩
    | number literal =>
      -- Digits lie away from blanks and brackets.
      obtain ⟨c, rest, text, rfl | digit⟩ := literal.head_text
      · exact ⟨'-', rest, text, by decide, rfl⟩
      · have bounds := toNat_of_isDigit digit
        have noBrace := ne_of_isDigit digit (show '}'.isDigit = false by decide)
        have noBracket := ne_of_isDigit digit (show ']'.isDigit = false by decide)
        refine ⟨c, rest, text, ?_, by simp [noBrace, noBracket, Token.closes]⟩
        simp only [isBlank]
        grind
  | _ => exact ⟨_, [], rfl, by decide, rfl⟩

/-- White space is blank. -/
theorem isBlank_of_isSpace {c : Char} (space : isSpace c = true) : isBlank c = true := by
  simp only [isSpace, Bool.or_eq_true, beq_iff_eq] at space
  rcases space with ((rfl | rfl) | rfl) | rfl <;> decide

/-- Behind a comma, the first token tells whether something closes. -/
theorem closes_render {pieces : List Piece} (bare : ∀ piece ∈ pieces, piece.isComment = false) :
    closes (render pieces) = (pieces.filterMap Piece.token?).head?.any Token.closes := by
  -- White space is passed over until a token comes; there are no comments left to be passed over.
  induction pieces with
  | nil => rfl
  | cons piece rest ih =>
    have later := ih fun other member => bare other (by simp [member])
    cases piece with
    | token mark =>
      obtain ⟨c, more, text, ink, told⟩ := mark.head_text
      have shape : render (.token mark :: rest) = c :: (more ++ render rest) := by
        simp [render, Piece.text, text]
      rw [closes, shape, List.dropWhile_cons_of_neg (by simp [ink])]
      exact told
    | space c blank =>
      have shape : render (.space c blank :: rest) = c :: render rest := rfl
      rw [closes, shape, List.dropWhile_cons_of_pos (isBlank_of_isSpace blank)]
      exact later
    | lineComment content oneLine => exact absurd (bare _ List.mem_cons_self) (by simp [Piece.isComment])
    | blockComment content unclosed =>
      exact absurd (bare _ List.mem_cons_self) (by simp [Piece.isComment])

/-- A comma is dropped exactly if something closes behind it. -/
theorem dropCommas_comma (rest : Text) :
    dropCommas (',' :: rest) = if closes rest then dropCommas rest else ',' :: dropCommas rest := by
  rw [dropCommas]

/-- Dropping commas drops exactly the surplus ones. -/
theorem dropCommas_render {pieces : List Piece} (bare : ∀ piece ∈ pieces, piece.isComment = false)
    (told : CommasTold (pieces.filterMap Piece.token?)) :
    dropCommas (render pieces) = render (pieces.filter Piece.plain) := by
  -- The induction is on the pieces. What the tokens tell about commas holds for the pieces behind
  -- as well.
  induction pieces with
  | nil =>
    show dropCommas [] = []
    rw [dropCommas]
  | cons piece rest ih =>
    have bare' : ∀ piece ∈ rest, piece.isComment = false :=
      fun other member => bare other (by simp [member])
    have shape : ∀ piece : Piece, render (piece :: rest) = piece.text ++ render rest := fun _ => rfl
    cases piece with
    | space c blank =>
      have inert := inert_of_isSpace blank
      have noComma : c ≠ ',' := by
        rintro rfl
        exact absurd blank (by decide)
      rw [List.filter_cons_of_pos (by rfl), shape]
      show dropCommas (c :: render rest) = c :: render (rest.filter Piece.plain)
      rw [dropCommas_pass inert.1 noComma, ih bare' told]
    | token mark =>
      have next := closes_render bare'
      by_cases between : mark = .comma
      · -- A comma between items has no closing bracket behind it.
        subst between
        obtain ⟨goes_on, told⟩ := told
        rw [List.filter_cons_of_pos (by rfl), shape]
        show dropCommas (',' :: render rest) = ',' :: render (rest.filter Piece.plain)
        rw [dropCommas_comma, next, goes_on, ih bare' told]
        rfl
      by_cases behind : mark = .surplus
      · -- A surplus comma has one.
        subst behind
        obtain ⟨closed, told⟩ := told
        rw [List.filter_cons_of_neg (by simp [Piece.plain, Token.plain]), shape]
        show dropCommas (',' :: render rest) = render (rest.filter Piece.plain)
        rw [dropCommas_comma, next, closed, ih bare' told]
        rfl
      · have kept : (Piece.token mark).plain = true := by
          cases mark with
          | surplus => exact absurd rfl behind
          | _ => rfl
        rw [List.filter_cons_of_pos kept, shape]
        show dropCommas (mark.text ++ render rest) = mark.text ++ render (rest.filter Piece.plain)
        rw [dropCommas_token between behind, ih bare' ((commasTold_cons between behind _).mp told)]
    | lineComment content oneLine => exact absurd (bare _ List.mem_cons_self) (by simp [Piece.isComment])
    | blockComment content unclosed =>
      exact absurd (bare _ List.mem_cons_self) (by simp [Piece.isComment])

/-- A document starts with a token that does not close. -/
theorem Written.head_tokens (written : Written) :
    ∃ token rest, written.tokens = token :: rest ∧ token.closes = false := by
  cases written with
  | scalar value => exact ⟨.scalar value, [], by rw [Written.tokens], rfl⟩
  | list items surplus => exact ⟨.openList, _, by rw [Written.tokens], rfl⟩
  | object entries surplus => exact ⟨.openObject, _, by rw [Written.tokens], rfl⟩

/-- The items of a list that has some start with a token that does not close. -/
theorem head_itemTokens (surplus : Bool) (item : Written) (others : List Written) :
    ∃ token rest, itemTokens surplus (item :: others) = token :: rest ∧ token.closes = false := by
  obtain ⟨token, rest, tokens, opens⟩ := item.head_tokens
  cases others with
  | nil => exact ⟨token, _, by rw [itemTokens, tokens, List.cons_append], opens⟩
  | cons next more =>
    exact ⟨token, _, by rw [itemTokens, tokens, List.cons_append]; simp, opens⟩

/-- The entries of an object that has some start with a name. -/
theorem head_entryTokens (surplus : Bool) (entry : StringLiteral × Written)
    (others : List (StringLiteral × Written)) :
    ∃ token rest, entryTokens surplus (entry :: others) = token :: rest ∧ token.closes = false := by
  obtain ⟨name, value⟩ := entry
  cases others with
  | nil => exact ⟨.scalar (.string name), _, by rw [entryTokens], rfl⟩
  | cons next more => exact ⟨.scalar (.string name), _, by rw [entryTokens]; simp, rfl⟩

/-- What closes is no comma. -/
theorem commasTold_close {close : Token} (closes : close.closes = true) {rest : List Token}
    (told : CommasTold rest) : CommasTold (close :: rest) := by
  cases close with
  | closeList => exact told
  | closeObject => exact told
  | _ => cases closes

/-- A surplus comma, if there is one, stands in front of what closes. -/
theorem commasTold_surplus (surplus : Bool) {close : Token} (closes : close.closes = true)
    {rest : List Token} (told : CommasTold rest) :
    CommasTold (surplusTokens surplus ++ close :: rest) := by
  cases surplus with
  | false => exact commasTold_close closes told
  | true => exact ⟨closes, commasTold_close closes told⟩

/-- A comma between items is told by the token behind it. -/
theorem commasTold_comma {tokens rest : List Token}
    (head : ∃ token more, tokens = token :: more ∧ token.closes = false)
    (told : CommasTold (tokens ++ rest)) : CommasTold (.comma :: (tokens ++ rest)) := by
  obtain ⟨token, more, rfl, opens⟩ := head
  exact ⟨opens, told⟩

mutual

/-- Commas are told in a document and behind it. -/
theorem Written.commasTold : ∀ (written : Written) {rest : List Token}, CommasTold rest →
    CommasTold (written.tokens ++ rest)
  -- The three statements go together, one for each kind of syntax: documents, items and entries.
  -- What follows is arbitrary, so each can be used inside the others.
  | .scalar value, rest, told => by
    rw [Written.tokens]
    exact told
  | .list items surplus, rest, told => by
    rw [Written.tokens, List.cons_append, List.append_assoc]
    exact commasTold_items surplus items rfl told
  | .object entries surplus, rest, told => by
    rw [Written.tokens, List.cons_append, List.append_assoc]
    exact commasTold_entries surplus entries rfl told

/-- Commas are told in the items of a list and behind its end. -/
theorem commasTold_items (surplus : Bool) : ∀ (items : List Written) {close : Token}
    {rest : List Token}, close.closes = true → CommasTold rest →
    CommasTold (itemTokens surplus items ++ close :: rest)
  | [], close, rest, closes, told => by
    rw [itemTokens]
    exact commasTold_close closes told
  | [item], close, rest, closes, told => by
    rw [itemTokens, List.append_assoc]
    exact item.commasTold (commasTold_surplus surplus closes told)
  -- The comma has an item behind it, and no item starts with what closes.
  | item :: next :: more, close, rest, closes, told => by
    rw [itemTokens, List.append_assoc, List.cons_append]
    · exact item.commasTold (commasTold_comma (head_itemTokens surplus next more)
        (commasTold_items surplus (next :: more) closes told))
    · simp

/-- Commas are told in the entries of an object and behind its end. -/
theorem commasTold_entries (surplus : Bool) : ∀ (entries : List (StringLiteral × Written))
    {close : Token} {rest : List Token}, close.closes = true → CommasTold rest →
    CommasTold (entryTokens surplus entries ++ close :: rest)
  | [], close, rest, closes, told => by
    rw [entryTokens]
    exact commasTold_close closes told
  | [(name, value)], close, rest, closes, told => by
    rw [entryTokens, List.cons_append, List.cons_append, List.append_assoc]
    exact value.commasTold (commasTold_surplus surplus closes told)
  | (name, value) :: next :: more, close, rest, closes, told => by
    rw [entryTokens, List.cons_append, List.cons_append, List.append_assoc, List.cons_append]
    · exact value.commasTold (commasTold_comma (head_entryTokens surplus next more)
        (commasTold_entries surplus (next :: more) closes told))
    · simp

end

end Commas

/-- Stripping a dressed document leaves exactly its plain pieces, as they are written. -/
theorem strip_eq_render {written : Written} (dressed : Dressed written) :
    strip dressed.text = render (dressed.pieces.filter Piece.plain) := by
  -- Comments go first, so that the second pass finds none between a comma and a bracket.
  have bare : ∀ piece ∈ dressed.pieces.filter fun piece => !piece.isComment,
      piece.isComment = false := by
    intro piece member
    simpa using (List.mem_filter.mp member).2
  -- Comments are no tokens, so the tokens are those of the document.
  have tokens : (dressed.pieces.filter fun piece => !piece.isComment).filterMap Piece.token? =
      written.tokens := by
    rw [← dressed.exactly, List.filterMap_filter]
    apply List.filterMap_congr
    intro piece _
    cases piece <;> rfl
  have told := written.commasTold (show CommasTold [] from trivial)
  rw [List.append_nil, ← tokens] at told
  rw [strip, Dressed.text, dropComments_render dressed.linesEnd, dropCommas_render bare told,
    List.filter_filter]
  -- What is plain is no comment.
  congr 1
  apply List.filter_congr
  intro piece _
  cases piece <;> simp [Piece.plain, Piece.isComment]

end ImportOrder.Json
