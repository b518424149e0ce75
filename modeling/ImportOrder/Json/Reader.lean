import ImportOrder.Text.Basic
import ImportOrder.Text.Digits
import ImportOrder.Document.Basic

/-! Reading a JSON text, with the place and the cause of the first fault. -/

namespace ImportOrder.Json

/-- What is wrong at a place of a JSON text. -/
inductive Problem
  | byteOrderMark
  | value
  | propertyName
  | colon
  | comma
  | extraData
  | openString
  | controlCharacter
  | escape
  | unicodeEscape
  | longInteger (digits : Nat)
deriving DecidableEq, Repr

/-- A problem and the number of characters that are left where it lies. -/
structure Stop where
  problem : Problem
  left : Nat
deriving DecidableEq, Repr

/-- Stop in front of a rest. -/
def stop {α : Type} (problem : Problem) (rest : Text) : Except Stop α :=
  .error ⟨problem, rest.length⟩

/-- The four characters that may stand between tokens. -/
def isSpace (c : Char) : Bool := c == ' ' || c == '\t' || c == '\n' || c == '\r'

/-- The rest of a text behind white space. -/
def skipSpace (text : Text) : Text := text.dropWhile isSpace

/-- The value of a hexadecimal digit. -/
def hexValue? (c : Char) : Option Nat :=
  if c.isDigit then some (c.toNat - '0'.toNat)
  else if 'a' ≤ c && c ≤ 'f' then some (c.toNat - 'a'.toNat + 10)
  else if 'A' ≤ c && c ≤ 'F' then some (c.toNat - 'A'.toNat + 10)
  else none

/-- The number written by four hexadecimal digits that are not the end of the text, and the rest. -/
def hex4? : Text → Option (Nat × Text)
  -- A fifth character has to follow, as the string still needs its closing quote.
  | a :: b :: c :: d :: e :: rest => do
    let n := 16 * (16 * (16 * (← hexValue? a) + (← hexValue? b)) + (← hexValue? c)) + (← hexValue? d)
    return (n, e :: rest)
  | _ => none

/-- A leading half of a character beyond the first plane. -/
def isHighHalf (n : Nat) : Bool := 0xD800 ≤ n && n < 0xDC00

/-- A trailing half of a character beyond the first plane. -/
def isLowHalf (n : Nat) : Bool := 0xDC00 ≤ n && n < 0xE000

/-- The character of two halves. -/
def joinHalves (high low : Nat) : Char :=
  Char.ofNat (0x10000 + (high - 0xD800) * 0x400 + (low - 0xDC00))

/-- The character that stands for half a character, which a text cannot hold. -/
def replacement : Char := Char.ofNat 0xFFFD

/-- The character with a number, where half a character becomes the replacement character. -/
def charOf (n : Nat) : Char :=
  if isHighHalf n || isLowHalf n then replacement else Char.ofNat n

/-- The character that a one-letter escape stands for. -/
def escaped? (c : Char) : Option Char :=
  match c with
  | '"' => some '"'
  | '\\' => some '\\'
  | '/' => some '/'
  | 'b' => some (Char.ofNat 8)
  | 'f' => some (Char.ofNat 12)
  | 'n' => some '\n'
  | 'r' => some '\r'
  | 't' => some '\t'
  | _ => none

/-- Read a numbered escape behind its letter; two halves in a row make one character. -/
def readUnicode (text : Text) : Except Stop (Char × Text) :=
  match hex4? text with
  | none => .error ⟨.unicodeEscape, text.length + 1⟩
  | some (high, rest) =>
    if !isHighHalf high then .ok (charOf high, rest)
    else
      match rest with
      | '\\' :: 'u' :: more =>
        -- An escape that is cut short is left to the next step, which reports it.
        if more.length < 5 then .ok (charOf high, rest)
        else
          match hex4? more with
          | none => .error ⟨.unicodeEscape, more.length + 1⟩
          | some (low, after) =>
            -- What is no second half is read again on its own.
            if isLowHalf low then .ok (joinHalves high low, after) else .ok (charOf high, rest)
      | _ => .ok (charOf high, rest)

/-- Read a string behind its opening quote, where `opened` counts the characters left at that quote.
-/
def readString (opened : Nat) : (fuel : Nat) → Text → Except Stop (Text × Text)
  | 0, _ => .error ⟨.openString, opened⟩
  | _ + 1, [] => .error ⟨.openString, opened⟩
  | _ + 1, '"' :: rest => .ok ([], rest)
  | _ + 1, ['\\'] => .error ⟨.openString, opened⟩
  | fuel + 1, '\\' :: 'u' :: rest => do
    let (c, rest) ← readUnicode rest
    let (body, rest) ← readString opened fuel rest
    return (c :: body, rest)
  | fuel + 1, '\\' :: c :: rest =>
    match escaped? c with
    | none => .error ⟨.escape, rest.length + 2⟩
    | some c => do
      let (body, rest) ← readString opened fuel rest
      return (c :: body, rest)
  | fuel + 1, c :: rest =>
    -- Control characters have to be escaped, line breaks among them.
    if c.toNat < 0x20 then stop .controlCharacter (c :: rest)
    else do
      let (body, rest) ← readString opened fuel rest
      return (c :: body, rest)

/-- The number written by decimal digits. -/
def natOf (digits : Text) : Nat := digits.foldl (fun n c => 10 * n + (c.toNat - '0'.toNat)) 0

/-- The fraction behind a point, if at least one digit follows. -/
def readFraction : Text → Text × Text
  | '.' :: c :: rest =>
    -- A point without a digit behind it is not taken: the number ends in front of it.
    if c.isDigit then (c :: rest.takeWhile Char.isDigit, rest.dropWhile Char.isDigit)
    else ([], '.' :: c :: rest)
  | text => ([], text)

/-- The exponent behind its letter, if at least one digit follows. -/
def readExponent (text : Text) : Option (Int × Text) :=
  match text with
  | mark :: rest =>
    if mark == 'e' || mark == 'E' then
      let (negative, digits) := match rest with
        | '-' :: digits => (true, digits)
        | '+' :: digits => (false, digits)
        | digits => (false, digits)
      match digits.takeWhile Char.isDigit with
      -- A mark without digits behind it is left where it is.
      | [] => none
      | body =>
        let n : Int := natOf body
        some (if negative then -n else n, digits.dropWhile Char.isDigit)
    else none
  | [] => none

/-- The digits in front of the point: a single zero, or digits that start with none. -/
def readWhole? : Text → Option (Text × Text)
  | '0' :: rest => some (['0'], rest)
  | c :: rest =>
    if c.isDigit then some (c :: rest.takeWhile Char.isDigit, rest.dropWhile Char.isDigit) else none
  | [] => none

/-- Read a number, where `text` is what a missing number is reported for. -/
def readNumber (text : Text) : Except Stop (Document × Text) :=
  let (negative, body) := match text with
    | '-' :: body => (true, body)
    | body => (false, body)
  match readWhole? body with
  | none => stop .value text
  | some (whole, rest) =>
    let (fraction, rest) := readFraction rest
    match readExponent rest with
    | some (exponent, rest) =>
      let digits := natOf (whole ++ fraction)
      .ok (.real (Binary64.ofDecimal negative digits (exponent - fraction.length)), rest)
    | none =>
      if fraction.isEmpty then
        -- Only whole numbers have a limit; all others are rounded.
        if maxIntegerDigits < whole.length then stop (.longInteger whole.length) text
        else .ok (.int (if negative then -(natOf whole : Int) else natOf whole), rest)
      else
        .ok (.real (Binary64.ofDecimal negative (natOf (whole ++ fraction)) (-fraction.length)), rest)

/-- The words that stand for values. -/
def words : List (String × Document) :=
  [("null", .null), ("true", .bool true), ("false", .bool false), ("NaN", .real .nan),
    ("Infinity", .real (.infinite false)), ("-Infinity", .real (.infinite true))]

/-- Read one of the words that stand for values. -/
def readWord? (text : Text) : Option (Document × Text) :=
  words.findSome? fun (word, value) => (Text.after? word.toList text).map (value, ·)

mutual

/-- Read a value. -/
def readValue : (fuel : Nat) → Text → Except Stop (Document × Text)
  | 0, text => stop .value text
  | fuel + 1, '"' :: rest => do
    let (body, rest) ← readString (rest.length + 1) fuel rest
    return (.text (String.ofList body), rest)
  | fuel + 1, '{' :: rest =>
    match skipSpace rest with
    | '}' :: rest => .ok (.mapping [], rest)
    | rest => do
      let (entries, rest) ← readEntries fuel rest
      return (.mapping (Entries.ofList entries), rest)
  | fuel + 1, '[' :: rest =>
    match skipSpace rest with
    | ']' :: rest => .ok (.list [], rest)
    | rest => do
      let (items, rest) ← readItems fuel rest
      return (.list items, rest)
  | _ + 1, text =>
    match readWord? text with
    | some found => .ok found
    | none => readNumber text

/-- Read the items of a list up to its closing bracket. -/
def readItems : (fuel : Nat) → Text → Except Stop (List Document × Text)
  | 0, text => stop .value text
  | fuel + 1, text => do
    let (item, rest) ← readValue fuel text
    match skipSpace rest with
    | ']' :: rest => return ([item], rest)
    | ',' :: rest =>
      let (items, rest) ← readItems fuel (skipSpace rest)
      return (item :: items, rest)
    | rest => stop .comma rest

/-- Read the entries of an object up to its closing bracket. -/
def readEntries : (fuel : Nat) → Text → Except Stop (List (Document × Document) × Text)
  | 0, text => stop .propertyName text
  | fuel + 1, '"' :: rest => do
    let (name, rest) ← readString (rest.length + 1) fuel rest
    match skipSpace rest with
    | ':' :: rest =>
      let (value, rest) ← readValue fuel (skipSpace rest)
      let entry := (Document.text (String.ofList name), value)
      match skipSpace rest with
      | '}' :: rest => return ([entry], rest)
      | ',' :: rest =>
        -- A comma promises another name, so a closing bracket is a fault here.
        let (entries, rest) ← readEntries fuel (skipSpace rest)
        return (entry :: entries, rest)
      | rest => stop .comma rest
    | rest => stop .colon rest
  | _ + 1, text => stop .propertyName text

end

/-- A problem at an offset of a text. -/
structure Fault where
  problem : Problem
  offset : Nat
deriving DecidableEq, Repr

/-- Read a whole text as one value. -/
def read (text : Text) : Except Fault Document :=
  let place := fun (s : Stop) => Fault.mk s.problem (text.length - s.left)
  -- A byte order mark is refused before anything else is read.
  if text.head? == some (Char.ofNat 0xFEFF) then .error ⟨.byteOrderMark, 0⟩
  else
    match readValue (2 * text.length + 2) (skipSpace text) with
    | .error s => .error (place s)
    | .ok (value, rest) =>
      match skipSpace rest with
      | [] => .ok value
      | rest => .error (place ⟨.extraData, rest.length⟩)

/-- How many brackets are open at a time at most, when reading goes through a text with some open
already. Brackets in a string do not count. -/
def nestingFrom : (quoted : Bool) → (depth : Nat) → Text → Nat
  | _, depth, [] => depth
  -- An escaped quote does not end the string.
  | true, depth, '\\' :: _ :: rest => nestingFrom true depth rest
  | true, depth, c :: rest => nestingFrom (c != '"') depth rest
  | false, depth, c :: rest =>
    if c == '[' || c == '{' then max (depth + 1) (nestingFrom false (depth + 1) rest)
    else if c == ']' || c == '}' then nestingFrom false (depth - 1) rest
    else nestingFrom (c == '"') depth rest

/-- Whether reading a text comes to a bracket too many. It does not come to those behind a fault. -/
def isTooDeep (depth : Nat) (text : Text) : Bool :=
  let scanned := match read text with
    | .ok _ => text
    | .error fault => text.take fault.offset
  depth < nestingFrom false 0 scanned

/-- The wording of a problem. -/
def Problem.message : Problem → String
  | .byteOrderMark => "Unexpected UTF-8 BOM (decode using utf-8-sig)"
  | .value => "Expecting value"
  | .propertyName => "Expecting property name enclosed in double quotes"
  | .colon => "Expecting ':' delimiter"
  | .comma => "Expecting ',' delimiter"
  | .extraData => "Extra data"
  | .openString => "Unterminated string starting at"
  | .controlCharacter => "Invalid control character at"
  | .escape => "Invalid \\escape"
  | .unicodeEscape => "Invalid \\uXXXX escape"
  | .longInteger digits => longIntegerMessage digits

/-- A fault with its line and column, both counted from one. -/
def Fault.message (text : Text) (fault : Fault) : String :=
  match fault.problem with
  | .longInteger _ => fault.problem.message
  | problem =>
    let before := text.take fault.offset
    let line := before.count '\n' + 1
    let column := (before.reverse.takeWhile (· != '\n')).length + 1
    s!"{problem.message}: line {line} column {column} (char {fault.offset})"

end ImportOrder.Json
