import ImportOrder.Text.Basic

/-! The words of a source text: which characters make a name, a number, a string and the like. -/

namespace ImportOrder

/-- The blank characters between the words of a source. -/
def isSourceBlank (c : Char) : Bool :=
  let n := c.toNat
  (9 ≤ n && n ≤ 13) || n == 32 || n == 0x85 || n == 0xA0 || n == 0x1680 ||
    (0x2000 ≤ n && n ≤ 0x200B) || n == 0x2028 || n == 0x2029 || n == 0x202F || n == 0x205F ||
    n == 0x2060 || n == 0x3000 || n == 0xFEFF

/-- The blank characters that may stand between a statement and the end of its line. -/
def isRowBlank (c : Char) : Bool :=
  let n := c.toNat
  n == 9 || (11 ≤ n && n ≤ 13) || n == 32 || n == 0x1680 || (0x2000 ≤ n && n ≤ 0x2006) ||
    (0x2008 ≤ n && n ≤ 0x200A) || n == 0x2028 || n == 0x2029 || n == 0x205F || n == 0x3000

/-- The characters that end a line comment. -/
def endsLineComment (c : Char) : Bool :=
  c == '\n' || c == '\r' || c.toNat == 0x2028 || c.toNat == 0x2029

/-- The characters that end a markup comment. -/
def endsMarkupComment (c : Char) : Bool :=
  c == '\n' || c.toNat == 0x2028 || c.toNat == 0x2029

/-- The marks that no name holds. -/
def nameBreakers : List Char := ":;`\"'@#.,|^&<=>+-*/\\%?!~()[]\x7b\x7d".toList

/-- A character that a name may hold. -/
def isNameChar (c : Char) : Bool :=
  0x20 < c.toNat && !isSourceBlank c && !nameBreakers.contains c

/-- A character that a name may start with. -/
def isNameStart (c : Char) : Bool := isNameChar c && !c.isDigit

/-- A hexadecimal digit. -/
def isHexChar (c : Char) : Bool :=
  c.isDigit || ('a' ≤ c && c ≤ 'f') || ('A' ≤ c && c ≤ 'F')

/-- A kind of word whose characters follow a rule of their own. -/
inductive Lexeme
  | name
  | freeName
  | privateName
  | number
  | string
  | pattern
  | templateText
  | markupText
  | markupName
  | markupString
deriving DecidableEq, Repr

namespace Lexeme

/-- The kind of node that a word makes. -/
def kind : Lexeme → String
  | .name => "identifier"
  | .freeName => "identifier"
  | .privateName => "private_property_identifier"
  | .number => "number"
  | .string => "string"
  | .pattern => "regex"
  | .templateText => "string_fragment"
  | .markupText => "jsx_text"
  | .markupName => "identifier"
  | .markupString => "string"

/-- Whether blanks and comments in front of a word are passed over; inside templates and markup they
are text. -/
def passesBlanks : Lexeme → Bool
  | .templateText => false
  | .markupText => false
  | _ => true

/-- The words that are never the name of a value. -/
def reserved : List String :=
  ["break", "case", "catch", "class", "const", "continue", "debugger", "default", "delete", "do",
    "else", "enum", "export", "extends", "finally", "for", "function", "if", "import", "in",
    "instanceof", "new", "return", "switch", "throw", "try", "typeof", "var", "void", "while",
    "with"]

/-- The length of the name that a text starts with. -/
def nameLength? : Text → Option Nat
  | [] => none
  | c :: rest =>
    if isNameStart c then some (1 + (rest.takeWhile isNameChar).length) else none

/-- The length of a name that is not reserved. -/
def freeNameLength? (text : Text) : Option Nat :=
  (nameLength? text).filter fun length => !reserved.contains (String.ofList (text.take length))

/-- Whether a sign of an exponent or a digit continues a number; `marked` says that an exponent mark
came just before. -/
def numberTail (marked : Bool) : Text → Nat
  | [] => 0
  | c :: rest =>
    if isNameChar c || c == '.' then 1 + numberTail (c == 'e' || c == 'E') rest
    -- A sign belongs to the number only right behind the mark of an exponent.
    else if marked && (c == '+' || c == '-') then 1 + numberTail false rest
    else 0

/-- The length of a number: digits, letters of bases and exponents, one point and a fraction. -/
def numberLength? (text : Text) : Option Nat :=
  match text with
  -- A number may begin with its point, but only in front of a digit.
  | '.' :: c :: rest => if c.isDigit then some (2 + numberTail false rest) else none
  | '0' :: c :: rest =>
    if "xXoObB".toList.contains c then some (2 + (rest.takeWhile isNameChar).length)
    else some (1 + numberTail false (c :: rest))
  | c :: rest => if c.isDigit then some (1 + numberTail false rest) else none
  | [] => none

/-- Whether what follows a backslash is a whole escape. -/
def isEscape : Text → Bool
  | 'x' :: a :: b :: _ => isHexChar a && isHexChar b
  | 'x' :: _ => false
  | 'u' :: '{' :: rest =>
    let digits := rest.takeWhile isHexChar
    !digits.isEmpty && (rest.drop digits.length).head? == some '}'
  | 'u' :: rest => (rest.take 4).length == 4 && (rest.take 4).all isHexChar
  | _ :: _ => true
  | [] => false

/-- The length of the rest of a string up to and with its closing quote. -/
def stringTail? (quote : Char) : Text → Option Nat
  | [] => none
  -- A line break behind a backslash is left out of the string, all of it.
  | '\\' :: '\r' :: '\n' :: rest => (stringTail? quote rest).map (· + 3)
  | '\\' :: c :: rest =>
    if isEscape (c :: rest) then (stringTail? quote rest).map (· + 2) else none
  | c :: rest =>
    if c == quote then some 1
    -- A string does not go on over the end of its line.
    else if c == '\n' || c == '\r' then none
    else (stringTail? quote rest).map (· + 1)

/-- The length of a string. -/
def stringLength? : Text → Option Nat
  | c :: rest => if c == '"' || c == '\'' then (stringTail? c rest).map (· + 1) else none
  | [] => none

/-- The length of the rest of a regular expression up to and with its closing slash; inside brackets
a slash closes nothing. -/
def patternTail? (bracket : Bool) : Text → Option Nat
  | [] => none
  | '\\' :: c :: rest => if c == '\n' then none else (patternTail? bracket rest).map (· + 2)
  | c :: rest =>
    if c == '\n' || c == '\r' then none
    else if c == '/' && !bracket then some 1
    else (patternTail? (if c == '[' then true else if c == ']' then false else bracket) rest).map
      (· + 1)

/-- The length of a regular expression with its flags. -/
def patternLength? : Text → Option Nat
  | '/' :: c :: rest =>
    -- This would be the start of a comment.
    if c == '*' || c == '/' then none
    else do
      let length ← patternTail? false (c :: rest)
      let flags := ((c :: rest).drop length).takeWhile isNameChar
      return 1 + length + flags.length
  | _ => none

/-- The length of the text of a template up to its end or the next hole. -/
def templateLength : Text → Nat
  | [] => 0
  -- Behind a backslash a mark ends nothing.
  | '\\' :: _ :: rest => templateLength rest + 2
  | '`' :: _ => 0
  | '$' :: '{' :: _ => 0
  | _ :: rest => templateLength rest + 1

/-- A character of running text between markup tags. -/
def isMarkupText (c : Char) : Bool := c != '{' && c != '}' && c != '<' && c != '>'

/-- A positive length. -/
def positive (length : Nat) : Option Nat := if length == 0 then none else some length

/-- The length of a quoted attribute value, which knows no escapes. -/
def markupStringLength? : Text → Option Nat
  | c :: rest =>
    if c == '"' || c == '\'' then
      -- A line break may stand in such a value.
      let body := rest.takeWhile (· != c)
      if body.length < rest.length then some (body.length + 2) else none
    else none
  | [] => none

/-- The length of a tag or attribute name, which may hold dashes. -/
def markupNameLength? : Text → Option Nat
  | [] => none
  | c :: rest =>
    if isNameStart c then some (1 + (rest.takeWhile fun c => isNameChar c || c == '-').length)
    else none

/-- The length of the word of a kind that a text starts with. -/
def length? : Lexeme → Text → Option Nat
  | .name, text => nameLength? text
  | .freeName, text => freeNameLength? text
  | .privateName, '#' :: rest => (nameLength? rest).map (· + 1)
  | .privateName, _ => none
  | .number, text => numberLength? text
  | .string, text => stringLength? text
  | .pattern, text => patternLength? text
  | .templateText, text => positive (templateLength text)
  | .markupText, text => positive (text.takeWhile isMarkupText).length
  | .markupName, text => markupNameLength? text
  | .markupString, text => markupStringLength? text

end Lexeme

/-- The marks made of several characters, and those of one, of which the longest is always meant. -/
def punctuators : List String :=
  [">>>=", "...", "===", "!==", "**=", "<<=", ">>=", ">>>", "&&=", "||=", "??=", "=>", "==", "!=",
    "<=", ">=", "&&", "||", "??", "?.", "++", "--", "+=", "-=", "*=", "/=", "%=", "&=", "|=", "^=",
    "<<", ">>", "**", "\x7b", "\x7d", "(", ")", "[", "]", ";", ",", "<", ">", "+", "-", "*", "/", "%", "&",
    "|", "^", "!", "~", "?", ":", "=", "@", "."]

/-- The mark that a text starts with; a question mark in front of a fraction stands alone. -/
def punctuator? (text : Text) : Option String :=
  match text with
  | '?' :: '.' :: c :: _ =>
    -- Here the point starts a fraction and belongs to the number.
    if c.isDigit then some "?" else some "?."
  | text => punctuators.find? fun mark => Text.startsWith text mark.toList

end ImportOrder
