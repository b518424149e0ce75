import ImportOrder.Text.Basic

/-! Line breaks: where they stand in a text, how many lines there are, and their plain form. -/

namespace ImportOrder

/-- A character that can end a line of a source text. -/
def isBreakChar (c : Char) : Bool := c == '\n' || c == '\r'

namespace Text

/-- The length of the line break that a text starts with, a carriage return taking its line feed
along. -/
def leadingBreak? : Text → Option Nat
  | '\r' :: '\n' :: _ => some 2
  | '\n' :: _ => some 1
  | '\r' :: _ => some 1
  | _ => none

/-- Whether a text starts with a line break. -/
def startsWithBreak (text : Text) : Bool := (leadingBreak? text).isSome

/-- Whether a text ends with a line break. -/
def endsWithBreak (text : Text) : Bool := text.getLast?.any isBreakChar

/-- Every line break of a text turned into a single line feed. -/
def unifyBreaks : Text → Text
  | [] => []
  | '\r' :: '\n' :: rest => '\n' :: unifyBreaks rest
  | '\r' :: rest => '\n' :: unifyBreaks rest
  | c :: rest => c :: unifyBreaks rest

/-- The characters that separate lines of running text: more than those of a source file. -/
def isLineSeparator (c : Char) : Bool :=
  let n := c.toNat
  (10 ≤ n && n ≤ 13) || (28 ≤ n && n ≤ 30) || n == 0x85 || n == 0x2028 || n == 0x2029

/-- The number of lines of running text, where `opened` says that the current line holds a
character. -/
def countLinesFrom (opened : Bool) : Text → Nat
  | [] => if opened then 1 else 0
  | '\r' :: '\n' :: rest => countLinesFrom false rest + 1
  | c :: rest =>
    if isLineSeparator c then countLinesFrom false rest + 1 else countLinesFrom true rest

/-- The number of lines of a running text, an unfinished last line included. -/
def countLines (text : Text) : Nat := countLinesFrom false text

end Text

end ImportOrder
