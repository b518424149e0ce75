/-! Texts as lists of characters, the characters that count as blank, and slices by offset. Texts
hold whole characters only, so half of a surrogate pair cannot stand in one. -/

namespace ImportOrder

/-- A text is the list of its characters, so every offset into it counts characters. -/
abbrev Text := List Char

/-- A character of white space in the Unicode sense, the separators `U+001C` to `U+001F` included.
-/
def isBlank (c : Char) : Bool :=
  let n := c.toNat
  (9 ≤ n && n ≤ 13) || (28 ≤ n && n ≤ 32) || n == 0x85 || n == 0xA0 || n == 0x1680 ||
    (0x2000 ≤ n && n ≤ 0x200A) || n == 0x2028 || n == 0x2029 || n == 0x202F || n == 0x205F ||
    n == 0x3000

/-- The two characters that fill a line without ending it. -/
def isInlineBlank (c : Char) : Bool := c == ' ' || c == '\t'

namespace Text

/-- Whether a text holds nothing but blank characters. -/
def allBlank (text : Text) : Bool := text.all isBlank

/-- The characters from offset `start` up to, but not including, offset `stop`. -/
def slice (text : Text) (start stop : Nat) : Text := (text.drop start).take (stop - start)

/-- The text without blank characters at either end. -/
def trim (text : Text) : Text :=
  ((text.dropWhile isBlank).reverse.dropWhile isBlank).reverse

/-- What follows `lead` in a text that starts with it. -/
def after? : (lead text : Text) → Option Text
  | [], text => some text
  | _ :: _, [] => none
  | c :: lead, d :: text => if c == d then after? lead text else none

/-- Whether a text starts with `lead`. -/
def startsWith (text lead : Text) : Bool := (after? lead text).isSome

/-- The pieces of a text between the occurrences of one character. -/
def splitOn (mark : Char) : Text → List Text
  | [] => [[]]
  | c :: rest =>
    if c == mark then [] :: splitOn mark rest
    else
      -- The character joins the piece that starts behind it.
      match splitOn mark rest with
      | [] => [[c]]
      | piece :: pieces => (c :: piece) :: pieces

/-- A text without the copies of one character that end it. -/
def dropTrailing (mark : Char) (text : Text) : Text :=
  (text.reverse.dropWhile (· == mark)).reverse

end Text

end ImportOrder
