import ImportOrder.Source.Lexeme
import ImportOrder.Text.Utf8
import ImportOrder.Tree.Node

/-! A place in a source text, the comments behind it, and where a statement may end there. -/

namespace ImportOrder

/-- A place in a source: what follows it, and how many bytes lie before it. -/
structure Cursor where
  rest : Text
  offset : Nat
deriving DecidableEq, Repr

namespace Cursor

/-- The place behind some characters. -/
def advance (cursor : Cursor) (count : Nat) : Cursor :=
  ⟨cursor.rest.drop count, cursor.offset + Utf8.length (cursor.rest.take count)⟩

/-- The place behind the characters of a kind. -/
def skipWhile (wanted : Char → Bool) (cursor : Cursor) : Cursor :=
  cursor.advance (cursor.rest.takeWhile wanted).length

/-- The node of the characters between two places. -/
def nodeTo (kind : String) (start stop : Cursor) : Node :=
  { kind, start := start.offset, stop := stop.offset }

/-- The kind of ordinary comments. -/
def commentKind : String := "comment"

/-- The kind of markup comments. -/
def markupCommentKind : String := "html_comment"

/-- The length of the rest of a block comment up to and with its end. -/
def blockTail? : Text → Option Nat
  | [] => none
  | '*' :: '/' :: _ => some 2
  | _ :: rest => (blockTail? rest).map (· + 1)

/-- The length of the comment that a text starts with. -/
def commentLength? : Text → Option Nat
  | '/' :: '/' :: rest => some (2 + (rest.takeWhile fun c => !endsLineComment c).length)
  | '/' :: '*' :: rest => (blockTail? rest).map (· + 2)
  | _ => none

/-- The comment at a place, and the place behind it. -/
def comment? (cursor : Cursor) : Option (Node × Cursor) := do
  let length ← commentLength? cursor.rest
  let behind := cursor.advance length
  return (nodeTo commentKind cursor behind, behind)

/-- The markup comment at a place, and the place behind it. -/
def markupComment? (cursor : Cursor) : Option (Node × Cursor) :=
  if Text.startsWith cursor.rest "<!--".toList || Text.startsWith cursor.rest "-->".toList then
    let behind := cursor.skipWhile fun c => !endsMarkupComment c
    some (nodeTo markupCommentKind cursor behind, behind)
  else none

/-- The comments between a place and the next word, and the place of that word. -/
def commentsFrom : (fuel : Nat) → Cursor → List Node × Cursor
  | 0, cursor => ([], cursor)
  | fuel + 1, cursor =>
    let next := cursor.skipWhile isSourceBlank
    match comment? next with
    | none => ([], next)
    | some (node, behind) =>
      -- Each comment takes characters, so the length of the rest is enough fuel.
      let (nodes, stop) := commentsFrom fuel behind
      (node :: nodes, stop)

/-- The comments between a place and the next word. -/
def comments (cursor : Cursor) : List Node × Cursor := commentsFrom (cursor.rest.length + 1) cursor

/-- Whether no line break outside comments lies between a place and the next word. -/
def sameLineFrom : (fuel : Nat) → Cursor → Bool
  | 0, _ => true
  | fuel + 1, cursor =>
    let blanks := cursor.rest.takeWhile isSourceBlank
    -- Line breaks inside a comment do not count.
    if blanks.contains '\n' then false
    else
      match comment? (cursor.advance blanks.length) with
      | none => true
      | some (_, behind) => sameLineFrom fuel behind

/-- Whether the next word stands on the line of a place. -/
def sameLine (cursor : Cursor) : Bool := sameLineFrom (cursor.rest.length + 1) cursor

/-- The marks at the start of a line that carry a statement on. -/
def carryOnMarks : List Char := "`,.;*%><=?^|&/:".toList

/-- Whether a word stands alone at the start of a text. -/
def startsWithWord (text : Text) (word : String) : Bool :=
  match Text.after? word.toList text with
  | none => false
  | some rest => !rest.head?.any Char.isAlpha

/-- Whether the text of a new line carries the statement of the line before on. -/
def carriesOn (text : Text) : Bool :=
  match text with
  | [] => false
  -- Two signs in a row count up or down and start a statement of their own.
  | '+' :: rest => rest.head? != some '+'
  | '-' :: rest => rest.head? != some '-'
  | '!' :: rest => rest.head? == some '='
  | c :: _ =>
    carryOnMarks.contains c || startsWithWord text "in" || startsWithWord text "instanceof"

/-- Whether a statement may end at a place without a mark: at the end of the text, before a closing
brace, or before a line that does not carry it on. Comments in front of that belong to the
statement. -/
def lineEndFrom : (fuel : Nat) → Cursor → Option (List Node × Cursor)
  | 0, _ => none
  | fuel + 1, cursor =>
    let next := cursor.skipWhile isRowBlank
    match next.rest with
    | [] => some ([], cursor)
    | '}' :: _ => some ([], cursor)
    -- The first word of the next line decides, behind all comments in front of it.
    | '\n' :: _ => if carriesOn next.comments.2.rest then none else some ([], cursor)
    | _ => do
      let (node, behind) ← comment? next
      let (nodes, stop) ← lineEndFrom fuel behind
      return (node :: nodes, stop)

/-- The end of a statement at a place, with the comments that belong to it. -/
def lineEnd? (cursor : Cursor) : Option (List Node × Cursor) :=
  lineEndFrom (cursor.rest.length + 1) cursor

end Cursor

end ImportOrder
