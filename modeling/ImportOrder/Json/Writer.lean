import ImportOrder.Text.Quoted
import ImportOrder.Document.Display

/-! Writing a document as JSON in ASCII, on one line or indented. -/

namespace ImportOrder.Json

/-- A numbered escape. -/
def numbered (n : Nat) : Text := '\\' :: 'u' :: hexDigits 4 n

/-- A character inside a string: ASCII as it is, everything else escaped. -/
def escapeChar (c : Char) : Text :=
  if c == '"' || c == '\\' then ['\\', c]
  else if c == '\n' then ['\\', 'n']
  else if c == '\r' then ['\\', 'r']
  else if c == '\t' then ['\\', 't']
  else if c.toNat == 8 then ['\\', 'b']
  else if c.toNat == 12 then ['\\', 'f']
  else if 0x20 ≤ c.toNat && c.toNat < 0x7F then [c]
  -- Characters of the first plane have one number, all others are two halves.
  else if c.toNat < 0x10000 then numbered c.toNat
  else
    let beyond := c.toNat - 0x10000
    numbered (0xD800 + beyond / 0x400) ++ numbered (0xDC00 + beyond % 0x400)

/-- A string with its quotes. -/
def writeString (text : Text) : Text := '"' :: text.flatMap escapeChar ++ ['"']

/-- A number, where the numbers that are none have names. -/
def writeReal (x : Binary64) : Text :=
  match x with
  | .nan => "NaN".toList
  | .infinite negative => (if negative then "-Infinity" else "Infinity").toList
  -- Numbers are written with the fewest digits that read back as the number.
  | x => x.toText.toList

/-- How a document is spread over lines: on one line, or one item a line at a depth. -/
inductive Layout
  | compact
  | indented (step depth : Nat)

/-- The layout one level deeper. -/
def Layout.deeper : Layout → Layout
  | .compact => .compact
  | .indented step depth => .indented step (depth + 1)

/-- What stands in front of an item. -/
def Layout.lineStart : Layout → Text
  | .compact => []
  | .indented step depth => '\n' :: List.replicate (step * depth) ' '

/-- What stands between a name and its value. -/
def Layout.colon : Layout → Text
  | .compact => [':']
  | .indented .. => [':', ' ']

/-- The name that a key is written by. -/
def keyName : Document → Text
  | .text name => name.toList
  | .null => "null".toList
  -- Keys that are no texts are written as the texts of their values.
  | .bool value => (if value then "true" else "false").toList
  | .real value => writeReal value
  | other => other.plain.toList

mutual

/-- A document as JSON. -/
def write (layout : Layout) : Document → Text
  | .null => "null".toList
  | .bool value => (if value then "true" else "false").toList
  | .int value => (toString value).toList
  | .real value => writeReal value
  | .text value => writeString value.toList
  | .date year month day => writeString (Document.date year month day).plain.toList
  | .moment value => writeString value.plain.toList
  -- A pair is written as a list of two items.
  | .pair first second =>
    let inner := layout.deeper
    '[' :: inner.lineStart ++ write inner first ++ ',' :: inner.lineStart ++ write inner second ++
      layout.lineStart ++ [']']
  | .list [] => ['[', ']']
  | .list items => '[' :: writeItems layout.deeper items ++ layout.lineStart ++ [']']
  | .mapping [] => ['{', '}']
  | .mapping entries => '{' :: writeEntries layout.deeper entries ++ layout.lineStart ++ ['}']

/-- The items of a list, with commas between them. -/
def writeItems (layout : Layout) : List Document → Text
  | [] => []
  | [item] => layout.lineStart ++ write layout item
  | item :: rest => layout.lineStart ++ write layout item ++ ',' :: writeItems layout rest

/-- The entries of an object, with commas between them. -/
def writeEntries (layout : Layout) : List (Document × Document) → Text
  | [] => []
  | [(key, value)] =>
    layout.lineStart ++ writeString (keyName key) ++ layout.colon ++ write layout value
  | (key, value) :: rest =>
    layout.lineStart ++ writeString (keyName key) ++ layout.colon ++ write layout value ++
      ',' :: writeEntries layout rest

end

/-- A document on one line. -/
def line (document : Document) : Text := write .compact document

/-- A document with two spaces a level. -/
def indent (document : Document) : Text := write (.indented 2 0) document

end ImportOrder.Json
