import ImportOrder.Statement

/-! Which comments move with an import statement. -/

namespace ImportOrder

/-- How far a statement reaches for comments: not at all, on its own lines, or one line further up.
-/
inductive CommentMode
  | none
  | sameLine
  | prevLine
deriving DecidableEq, Repr

/-- The mode of a name; an unknown name reaches one line further up. -/
def CommentMode.ofName (name : String) : CommentMode :=
  if name == "none" then .none
  else if name == "same-line" then .sameLine
  else .prevLine

/-- The comments that statements have taken, each known by its two offsets. -/
abbrev Taken := List (Int × Int)

namespace Attachment

/-- The offsets that a comment is known by. -/
def key (comment : Comment) : Int × Int := (comment.start, comment.stop)

/-- Whether a comment in front of a statement ends near enough to its first line. -/
def reaches (mode : CommentMode) (statement : ImportStatement) (comment : Comment) : Bool :=
  match mode with
  | .none => false
  | .sameLine => comment.stopLine == statement.startLine
  | .prevLine => statement.startLine - 1 ≤ comment.stopLine

/-- Take the comments in front of a statement, in the order they come: each one that is free, near
enough, and further to the left than those taken before. -/
def takeLeading (mode : CommentMode) (statement : ImportStatement) :
    List Comment → Int → Taken → Int × Taken
  | [], start, taken => (start, taken)
  | comment :: rest, start, taken =>
    -- What is taken already belongs to a statement further to the left.
    if !taken.contains (key comment) && reaches mode statement comment && comment.start < start then
      takeLeading mode statement rest comment.start (key comment :: taken)
    else takeLeading mode statement rest start taken

/-- Take the comments behind a statement that start on its last line. -/
def takeTrailing (mode : CommentMode) (statement : ImportStatement) :
    List Comment → Int → Taken → Int × Taken
  | [], stop, taken => (stop, taken)
  | comment :: rest, stop, taken =>
    -- A comment behind a statement is free: only statements further to the right could share it.
    if mode != .none && comment.startLine == statement.stopLine then
      takeTrailing mode statement rest (max stop comment.stop) (key comment :: taken)
    else takeTrailing mode statement rest stop taken

/-- Whether a statement lies inside a text of a length. -/
def inside (length : Nat) (statement : ImportStatement) : Bool :=
  0 ≤ statement.start && statement.start ≤ statement.stop && statement.stop ≤ length

/-- The clip of one statement, and what is taken then. -/
def clip (mode : CommentMode) (source : Text) (taken : Taken) (statement : ImportStatement) :
    Except SpanError (Clip × Taken) := do
  let (start, taken) := takeLeading mode statement statement.leading statement.start taken
  let (stop, taken) := takeTrailing mode statement statement.trailing statement.stop taken
  -- Bounds out of order are refused here, the inner ones first.
  let inner ← Span.ofInts statement.start statement.stop
  let outer ← Span.ofInts start stop
  return (⟨statement, Text.slice source outer.start outer.stop, inner, outer⟩, taken)

/-- The clips of the statements that lie inside the source, from left to right. -/
def clipsFrom (mode : CommentMode) (source : Text) (taken : Taken) :
    List ImportStatement → Except SpanError (List Clip)
  | [] => .ok []
  | statement :: rest =>
    if inside source.length statement then do
      let (found, taken) ← clip mode source taken statement
      let others ← clipsFrom mode source taken rest
      return found :: others
    else clipsFrom mode source taken rest

/-- The clips of a source, where no comment is taken yet. -/
def clips (mode : CommentMode) (source : Text) (statements : List ImportStatement) :
    Except SpanError (List Clip) :=
  clipsFrom mode source [] statements

end Attachment

end ImportOrder
