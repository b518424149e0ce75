import ImportOrder.Text.Basic
import ImportOrder.Span

/-! Import statements and comments as a reader of the source reports them. -/

namespace ImportOrder

/-- A comment: its offsets, and its first and last line counted from one. -/
structure Comment where
  start : Int
  stop : Int
  startLine : Int
  stopLine : Int
deriving DecidableEq, Repr

/-- An import statement: its offsets and lines, the module it names, and the comments between it and
the statements before and behind it. -/
structure ImportStatement where
  start : Int
  stop : Int
  startLine : Int
  stopLine : Int
  specifier : String
  leading : List Comment
  trailing : List Comment
deriving DecidableEq, Repr

/-- An import statement with the text that moves with it: the statement alone and its comments. -/
structure Clip where
  statement : ImportStatement
  value : Text
  inner : Span
  outer : Span
deriving DecidableEq, Repr

/-- The module that a clip imports. -/
def Clip.specifier (clip : Clip) : String := clip.statement.specifier

end ImportOrder
