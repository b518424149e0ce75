import ImportOrder.Json.Comments
import ImportOrder.Json.Reader
import ImportOrder.Text.Lines
import Mathlib.Data.List.Basic

/-! JSON documents as they are written: literals, tokens, the white space and the comments between
them, and commas behind a last item. Each form says which value it stands for. -/

namespace ImportOrder.Json

/-- A hexadecimal digit with its value. -/
structure HexDigit where
  char : Char
  value : Nat
  -- The reader decides which characters are digits; a digit carries what it reads.
  means : hexValue? char = some value

/-- Four hexadecimal digits, as a numbered escape has them. -/
structure HexCode where
  first : HexDigit
  second : HexDigit
  third : HexDigit
  fourth : HexDigit

namespace HexCode

/-- The digits of a code. -/
def text (code : HexCode) : Text :=
  [code.first.char, code.second.char, code.third.char, code.fourth.char]

/-- The number of a code. -/
def value (code : HexCode) : Nat :=
  16 * (16 * (16 * code.first.value + code.second.value) + code.third.value) + code.fourth.value

end HexCode

/-- The letters of short escapes with the characters that they stand for. -/
def shortEscapes : List (Char × Char) :=
  [('"', '"'), ('\\', '\\'), ('/', '/'), ('b', Char.ofNat 8), ('f', Char.ofNat 12), ('n', '\n'),
    ('r', '\r'), ('t', '\t')]

/-- A part of a string literal: a character that stands for itself, or an escape. -/
inductive StringPart
  | plain (c : Char) (unquoted : c ≠ '"') (unescaped : c ≠ '\\') (printing : 0x20 ≤ c.toNat)
  | short (escape : Char × Char) (known : escape ∈ shortEscapes)
  -- Any four digits will do, those of half a character among them.
  | numbered (code : HexCode)

/-- A part as it is written. -/
def StringPart.text : StringPart → Text
  | .plain c .. => [c]
  | .short escape _ => ['\\', escape.1]
  | .numbered code => '\\' :: 'u' :: code.text

/-- A string literal is the list of its parts. -/
abbrev StringLiteral := List StringPart

namespace StringLiteral

/-- What stands between the quotes. -/
def body (parts : StringLiteral) : Text := parts.flatMap StringPart.text

/-- A string literal with its quotes. -/
def text (parts : StringLiteral) : Text := '"' :: body parts ++ ['"']

/-- The text that a string literal stands for: two numbered escapes in a row that are halves of one
character stand for that character. -/
def value : StringLiteral → Text
  | [] => []
  | .plain c .. :: rest => c :: value rest
  | .short escape _ :: rest => escape.2 :: value rest
  -- Only two escapes can be joined. Half a character that stands alone is read by itself, and the
  -- escape behind it starts anew.
  | .numbered high :: .numbered low :: rest =>
    if isHighHalf high.value && isLowHalf low.value then
      joinHalves high.value low.value :: value rest
    else charOf high.value :: value (.numbered low :: rest)
  | .numbered code :: rest => charOf code.value :: value rest

end StringLiteral

/-- The exponent of a number: its letter, its sign if it has one, and at least one digit. -/
structure Exponent where
  letter : Char
  sign : Option Bool
  digits : Text
  -- These three let no exponent be built that cannot be read.
  isLetter : letter = 'e' ∨ letter = 'E'
  some_digit : digits ≠ []
  allDigits : ∀ c ∈ digits, c.isDigit = true

namespace Exponent

/-- The sign of an exponent as it is written; a minus is `true`. -/
def signText (exponent : Exponent) : Text :=
  match exponent.sign with
  | none => []
  | some true => ['-']
  | some false => ['+']

/-- An exponent as it is written. -/
def text (exponent : Exponent) : Text :=
  exponent.letter :: exponent.signText ++ exponent.digits

/-- The power of ten that an exponent stands for. -/
def value (exponent : Exponent) : Int :=
  if exponent.sign = some true then -(natOf exponent.digits : Int) else natOf exponent.digits

end Exponent

/-- A number: digits that start with no zero unless they are a single one, perhaps behind a minus,
and perhaps with a fraction and an exponent. An empty fraction is none. -/
structure NumberLiteral where
  negative : Bool
  lead : Char
  others : Text
  fraction : Text
  exponent : Option Exponent
  leadDigit : lead.isDigit = true
  -- A leading zero would end the number, and its other digits would be no token.
  zeroAlone : lead = '0' → others = []
  othersDigits : ∀ c ∈ others, c.isDigit = true
  fractionDigits : ∀ c ∈ fraction, c.isDigit = true

namespace NumberLiteral

/-- The digits in front of the point. -/
def whole (number : NumberLiteral) : Text := number.lead :: number.others

/-- The fraction with its point. -/
def fractionText (number : NumberLiteral) : Text :=
  if number.fraction.isEmpty then [] else '.' :: number.fraction

/-- The exponent, if there is one. -/
def exponentText (number : NumberLiteral) : Text :=
  match number.exponent with
  | none => []
  | some exponent => exponent.text

/-- A number as it is written. -/
def text (number : NumberLiteral) : Text :=
  (if number.negative then ['-'] else []) ++
    (number.whole ++ (number.fractionText ++ number.exponentText))

/-- The value of a number: a whole number unless it has a fraction or an exponent. A whole number
with too many digits has none. -/
def value? (number : NumberLiteral) : Option Document :=
  match number.exponent with
  -- The digits of the fraction are read with those in front of the point, and moved behind it by
  -- the power of ten.
  | some exponent =>
    some (.real (Binary64.ofDecimal number.negative (natOf (number.whole ++ number.fraction))
      (exponent.value - number.fraction.length)))
  | none =>
    if number.fraction.isEmpty then
      if maxIntegerDigits < number.whole.length then none
      else some (.int (if number.negative then -(natOf number.whole : Int) else natOf number.whole))
    else
      some (.real (Binary64.ofDecimal number.negative (natOf (number.whole ++ number.fraction))
        (-number.fraction.length)))

end NumberLiteral

/-- A value that is one token. -/
inductive Scalar
  | null
  | bool (value : Bool)
  | number (literal : NumberLiteral)
  | string (parts : StringLiteral)

namespace Scalar

/-- A scalar as it is written. -/
def text : Scalar → Text
  | .null => "null".toList
  | .bool true => "true".toList
  | .bool false => "false".toList
  | .number literal => literal.text
  | .string parts => parts.text

/-- The value of a scalar. -/
def value? : Scalar → Option Document
  | .null => some .null
  | .bool value => some (.bool value)
  | .number literal => literal.value?
  | .string parts => some (.text (String.ofList parts.value))

end Scalar

/-- A token. A surplus comma stands behind the last item of a list or an object. -/
inductive Token
  | openList
  | closeList
  | openObject
  | closeObject
  | colon
  | comma
  -- It is written as any comma. Telling the two apart lets what is dropped be said by a filter.
  | surplus
  | scalar (value : Scalar)

namespace Token

/-- A token as it is written. -/
def text : Token → Text
  | .openList => ['[']
  | .closeList => [']']
  | .openObject => ['{']
  | .closeObject => ['}']
  | .colon => [':']
  | .comma => [',']
  | .surplus => [',']
  | .scalar value => value.text

/-- Whether a token closes a list or an object. -/
def closes : Token → Bool
  | .closeList => true
  | .closeObject => true
  | _ => false

/-- Whether a token belongs to plain JSON. -/
def plain : Token → Bool
  | .surplus => false
  | _ => true

end Token

/-- A document as it is written, where a list or an object may have a surplus comma. -/
inductive Written
  | scalar (scalar : Scalar)
  | list (items : List Written) (surplus : Bool)
  -- Names may come twice; the last one wins when the value is made.
  | object (entries : List (StringLiteral × Written)) (surplus : Bool)

/-- What stands behind the last item. -/
def surplusTokens (surplus : Bool) : List Token := if surplus then [.surplus] else []

mutual

/-- The tokens of a document. -/
def Written.tokens : Written → List Token
  | .scalar scalar => [.scalar scalar]
  | .list items surplus => .openList :: (itemTokens surplus items ++ [.closeList])
  | .object entries surplus => .openObject :: (entryTokens surplus entries ++ [.closeObject])

/-- The tokens of the items of a list, with commas between them. -/
def itemTokens (surplus : Bool) : List Written → List Token
  | [] => []
  -- A surplus comma needs an item to stand behind: an empty list has none.
  | [item] => item.tokens ++ surplusTokens surplus
  | item :: rest => item.tokens ++ .comma :: itemTokens surplus rest

/-- The tokens of the entries of an object, with commas between them. -/
def entryTokens (surplus : Bool) : List (StringLiteral × Written) → List Token
  | [] => []
  | [(name, value)] => .scalar (.string name) :: .colon :: (value.tokens ++ surplusTokens surplus)
  | (name, value) :: rest =>
    .scalar (.string name) :: .colon :: (value.tokens ++ .comma :: entryTokens surplus rest)

end

mutual

/-- The value of a document, none if a number in it has none. -/
def Written.value? : Written → Option Document
  | .scalar scalar => scalar.value?
  | .list items _ => (itemValues? items).map .list
  | .object entries _ => (entryValues? entries).map fun entries => .mapping (Entries.ofList entries)

/-- The values of the items of a list. -/
def itemValues? : List Written → Option (List Document)
  | [] => some []
  | item :: rest => do
    let value ← item.value?
    let values ← itemValues? rest
    return value :: values

/-- The names and the values of the entries of an object. -/
def entryValues? : List (StringLiteral × Written) → Option (List (Document × Document))
  | [] => some []
  | (name, value) :: rest => do
    let value ← value.value?
    let values ← entryValues? rest
    return (.text (String.ofList name.value), value) :: values

end

/-- A piece of a text with comments: a token, a character of white space, a comment up to the end of
its line, or a comment between its own marks. -/
inductive Piece
  | token (mark : Token)
  | space (c : Char) (blank : isSpace c = true)
  | lineComment (content : Text) (oneLine : ∀ c ∈ content, isBreakChar c = false)
  -- The first closing mark ends a comment, so there is none in what it holds.
  | blockComment (content : Text) (unclosed : ¬['*', '/'] <:+: content)

namespace Piece

/-- A piece as it is written. -/
def text : Piece → Text
  | .token mark => mark.text
  | .space c _ => [c]
  | .lineComment content _ => '/' :: '/' :: content
  | .blockComment content _ => '/' :: '*' :: (content ++ ['*', '/'])

/-- The token of a piece. -/
def token? : Piece → Option Token
  | .token mark => some mark
  | _ => none

/-- Whether a piece is a comment. -/
def isComment : Piece → Bool
  | .lineComment .. => true
  | .blockComment .. => true
  | _ => false

/-- Whether a piece belongs to plain JSON: no comment and no surplus comma. -/
def plain : Piece → Bool
  | .token mark => mark.plain
  | .space .. => true
  | _ => false

/-- Whether a piece is a line break. -/
def isBreak : Piece → Bool
  | .space c _ => isBreakChar c
  | _ => false

end Piece

/-- Pieces as they are written, one behind the other. -/
def render (pieces : List Piece) : Text := pieces.flatMap Piece.text

/-- Every comment up to the end of its line is ended by a line break, or by the end of the text. -/
def LinesEnd : List Piece → Prop
  | [] => True
  -- Without its line break a comment would go on over the next piece.
  | .lineComment .. :: rest => rest.head?.all Piece.isBreak = true ∧ LinesEnd rest
  | _ :: rest => LinesEnd rest

/-- A document dressed with white space and comments: its tokens in their order, with anything else
between, before and behind them. -/
structure Dressed (written : Written) where
  pieces : List Piece
  exactly : pieces.filterMap Piece.token? = written.tokens
  linesEnd : LinesEnd pieces

/-- The text of a dressed document. -/
def Dressed.text {written : Written} (dressed : Dressed written) : Text := render dressed.pieces

/-- The tokens of a document without surplus commas. -/
def Written.plainTokens (written : Written) : List Token := written.tokens.filter Token.plain

/-- The plain document: no white space, no comments, no surplus commas. -/
def Written.plain (written : Written) : Text := written.plainTokens.flatMap Token.text

end ImportOrder.Json
