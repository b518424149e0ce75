import ImportOrder.Text.Basic

/-! The tokens of a YAML text and the characters that tell them apart. -/

namespace ImportOrder.Yaml

/-- Why a YAML text stands for no document: it breaks the rules of the format, or a scalar is no
value of the kind that it claims to be. -/
inductive Fault
  | malformed
  | badValue (message : String)
  | emptyNumber
  | unknownTruth (word : String)
deriving DecidableEq, Repr

/-- The wording of a fault. Faults of form share one, which does not tell their place. -/
def Fault.message : Fault → String
  | .malformed => "<yaml error>"
  | .badValue message => message
  | .emptyNumber => "string index out of range"
  | .unknownTruth word => word

/-- A token. A scalar is plain if no quotes or indicators mark it. -/
inductive Token
  | versionDirective (major : Nat)
  | tagDirective (handle lead : Text)
  | otherDirective
  | documentStart
  | documentEnd
  | blockSequenceStart
  | blockMappingStart
  | blockEnd
  | flowSequenceStart
  | flowSequenceEnd
  | flowMappingStart
  | flowMappingEnd
  | blockEntry
  | flowEntry
  | key
  | value
  | alias (name : Text)
  | anchor (name : Text)
  | tag (handle : Option Text) (suffix : Text)
  | scalar (text : Text) (plain : Bool)
deriving DecidableEq, Repr

/-- The mark that stands for the end of the text, which no text holds. -/
def endMark : Char := Char.ofNat 0

/-- A character that a YAML text may hold. -/
def isAllowed (c : Char) : Bool :=
  let n := c.toNat
  n == 9 || n == 10 || n == 13 || (0x20 ≤ n && n ≤ 0x7E) || n == 0x85 ||
    (0xA0 ≤ n && n ≤ 0xD7FF) || (0xE000 ≤ n && n ≤ 0xFFFD) || 0x10000 ≤ n

/-- A character that ends a line. -/
def isBreak (c : Char) : Bool :=
  c == '\n' || c == '\r' || c.toNat == 0x85 || c.toNat == 0x2028 || c.toNat == 0x2029

/-- The end of a line or of the text. -/
def isLineStop (c : Char) : Bool := c == endMark || isBreak c

/-- The end of a line or of the text, or a space. -/
def isSpaceOrStop (c : Char) : Bool := c == ' ' || isLineStop c

/-- The end of a word: a blank, or the end of a line or of the text. -/
def isWordStop (c : Char) : Bool := c == '\t' || isSpaceOrStop c

/-- A character of the name of an anchor or a directive. -/
def isLabelChar (c : Char) : Bool := c.isAlphanum || c == '-' || c == '_'

/-- A character of a tag. -/
def isTagChar (c : Char) : Bool :=
  c.isAlphanum || "-;/?:@&=+$,_.!~*'()[]%".toList.contains c

/-- A character that starts no plain scalar by itself. -/
def isIndicator (c : Char) : Bool :=
  isWordStop c || "-?:,[]\x7b\x7d#&*!|>'\"%@`".toList.contains c

/-- A character that ends a plain scalar between brackets. -/
def isFlowIndicator (c : Char) : Bool := ",?[]\x7b\x7d".toList.contains c

/-- A hexadecimal digit. -/
def isHexDigit (c : Char) : Bool := c.isDigit || ('a' ≤ c && c ≤ 'f') || ('A' ≤ c && c ≤ 'F')

/-- The value of a hexadecimal digit. -/
def hexValue (c : Char) : Nat :=
  if c.isDigit then c.toNat - '0'.toNat
  else if 'a' ≤ c then c.toNat - 'a'.toNat + 10
  else c.toNat - 'A'.toNat + 10

/-- The number that digits of a base write. -/
def numberOf (base : Nat) (digits : Text) : Nat :=
  digits.foldl (fun n c => base * n + hexValue c) 0

/-- The character that a letter behind a backslash stands for. -/
def escaped? (c : Char) : Option Char :=
  match c with
  | '0' => some (Char.ofNat 0)
  | 'a' => some (Char.ofNat 7)
  | 'b' => some (Char.ofNat 8)
  | 't' => some '\t'
  | '\t' => some '\t'
  | 'n' => some '\n'
  | 'v' => some (Char.ofNat 11)
  | 'f' => some (Char.ofNat 12)
  | 'r' => some '\r'
  | 'e' => some (Char.ofNat 27)
  | ' ' => some ' '
  | '"' => some '"'
  | '\\' => some '\\'
  | '/' => some '/'
  | 'N' => some (Char.ofNat 0x85)
  | '_' => some (Char.ofNat 0xA0)
  | 'L' => some (Char.ofNat 0x2028)
  | 'P' => some (Char.ofNat 0x2029)
  | _ => none

/-- The number of digits behind a letter that stands for a numbered character. -/
def escapeWidth? (c : Char) : Option Nat :=
  match c with
  | 'x' => some 2
  | 'u' => some 4
  | 'U' => some 8
  | _ => none

end ImportOrder.Yaml
